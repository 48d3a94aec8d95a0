import ObjectVolume.Operation
/-!
# Sessions

A session is a client at work on a store. The client may be replaced and cancelled; the store keeps
what earlier operations did to it.

| here | there |
| --- | --- |
| `Session` | an `S3Client` with its store |
| `Session.start`, `Session.replaceClient` | `S3Client.with_store` |
| `Session.shareCancellation` | `S3Client.with_cancellation` with a `child_token` |
| `Session.cancel` | `S3Client.cancel` |
| `Session.run` | awaiting what `run_cancellable` gives |
-/
namespace ObjectVolume

structure Session (σ : Type) where
  store : σ
  client : Client

/-- How an operation of a session ends. -/
inductive Outcome (α : Type) where
  | done (a : α)
  | failed (e : Error)
  /-- The operation has died, and the program with it. -/
  | died (message : String)

namespace Session

variable {σ α : Type}

/-- A session of a client with a fresh token, if the configuration is valid. -/
def start (store : σ) (c : Config) : Except ConfigProblem (Session σ) := do
  return ⟨store, ← Client.ofConfig c⟩

/-- Replaces the client by one with a fresh token. -/
def replaceClient (s : Session σ) (c : Config) : Except ConfigProblem (Session σ) := do
  return { s with client := ← Client.ofConfig c }

/-- Replaces the client by one that is cancelled with the present one. -/
def shareCancellation (s : Session σ) (c : Config) : Except ConfigProblem (Session σ) := do
  return { s with client := { (← Client.ofConfig c) with token := s.client.token.derived } }

def cancel (s : Session σ) : Session σ :=
  { s with client := s.client.cancel }

/-- Runs an operation on behalf of the client. `alarm` is a cancellation from outside, which is
dropped if the operation ends before it. -/
def run (s : Session σ) (alarm : Option Moment) (op : Operation σ α) : Outcome α × Session σ :=
  let (result, w) := op.outcome { store := s.store, token := s.client.token, alarm }
  let after : Session σ := ⟨w.store, { s.client with token := w.token }⟩
  match result with
  | .ok a => (.done a, after)
  | .error (.failed e) => (.failed e, after)
  | .error (.died message) => (.died message, after)
  | .error .interrupted => (.failed .cancelled, after)

end Session

end ObjectVolume
