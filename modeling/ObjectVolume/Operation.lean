import ObjectVolume.Client
import ObjectVolume.Store.Basic
/-!
# Operations

An operation calls a store, waits, and ends with a value or for one of three reasons. It runs on
behalf of a client, and ends as interrupted as soon as it waits while the client is cancelled. A
cancellation may also come from outside, at a moment set beforehand.

| here | there |
| --- | --- |
| `Operation` | an operation of a client, awaited to its end |
| `Operation.wait`, `Operation.checkpoint` | where an operation waits, and the token is looked at |
| `Operation.call` | a call of an `ObjectStore` |
| `Operation.cancellable` | `S3Client.run_cancellable` |
-/
namespace ObjectVolume

/-- When a cancellation comes from outside. -/
inductive Moment where
  /-- Milliseconds after the operation started. -/
  | time (ms : Nat)
  /-- The wait after `n` others. -/
  | turn (n : Nat)
  deriving DecidableEq, Repr

namespace Moment

/-- The moment falls into a wait of `ms` milliseconds that starts at `clock`. -/
def fallsInto (m : Moment) (clock ms : Nat) : Bool :=
  match m with
  | time t => t < clock + ms
  | turn n => n == 0

/-- The moment as it is seen after one more wait. -/
def afterWait : Moment → Moment
  | time t => time t
  | turn n => turn (n - 1)

end Moment

/-- Why an operation ends without a value. -/
inductive Stop where
  | failed (e : Error)
  /-- The operation dies with a message. -/
  | died (message : String)
  | interrupted

/-- What an operation acts on. -/
structure World (σ : Type) where
  store : σ
  token : Token
  /-- Milliseconds since the operation started. -/
  clock : Nat := 0
  /-- A cancellation that is to come. -/
  alarm : Option Moment := none

/-- An operation on a store with contents in `σ`. What it has done before it stops stays done. -/
abbrev Operation (σ α : Type) := ExceptT Stop (StateM (World σ)) α

namespace Operation

variable {σ α : Type}

def fail (e : Error) : Operation σ α :=
  throw (.failed e)

def ofExcept : Except Error α → Operation σ α
  | .ok a => pure a
  | .error e => fail e

/-- Cancels the client. -/
def cancel : Operation σ Unit :=
  modify fun w => { w with token := w.token.cancel }

/-- Ends here if the client is cancelled. -/
def checkpoint : Operation σ Unit := do
  if (← get).token.isCancelled then throw .interrupted

/-- Lets `ms` milliseconds pass, unless the client is cancelled before they are over. -/
def wait (ms : Nat) : Operation σ Unit := do
  checkpoint
  let w ← get
  match w.alarm with
  | none => set { w with clock := w.clock + ms }
  | some m =>
    if m.fallsInto w.clock ms then
      set { w with token := w.token.cancel, alarm := none }
      throw .interrupted
    else set { w with clock := w.clock + ms, alarm := some m.afterWait }

/-- Acts on the store. -/
def onStore (f : σ → α × σ) : Operation σ α :=
  modifyGet fun w => let (a, s) := f w.store; (a, { w with store := s })

/-- Calls the store and ends as the call does. -/
def call (f : σ → Store.Reply α × σ) : Operation σ α := do
  match ← onStore f with
  | .done a => pure a
  | .failed e => fail e
  | .died message => throw (.died message)
  | .cancels answer =>
    cancel
    match answer with
    | some a => pure a
    | none => throw .interrupted

/-- Runs `op` unless the client is cancelled already; interrupted, it fails as cancelled. -/
def cancellable (op : Operation σ α) : Operation σ α := do
  if (← get).token.isCancelled then fail .cancelled
  else
    tryCatch op fun
      | .interrupted => fail .cancelled
      | stop => throw stop

/-- How an operation ends, and what it leaves behind. -/
def outcome (op : Operation σ α) (w : World σ) : Except Stop α × World σ :=
  (ExceptT.run op).run w

end Operation

end ObjectVolume
