import ObjectVolume.Proofs.Eviction.Bulk
import ObjectVolume.Proofs.Eviction.Single
import ObjectVolume.Proofs.Operation
import ObjectVolume.Volume
/-!
# Evictions, step by step

A call that evicts a prefix or a bucket goes through stages. `Step` are the steps that it takes on its
own, in any order that its tasks allow; each is what one task does between two waits. `Run` strings
them together, with cancellations from outside in between if there are any. `Ends` says that a call
comes to an end on every way that it can take.

| here | there |
| --- | --- |
| `Call`, `Target` | a call of `EvictionOperations.remove_prefix` or `EvictionOperations.remove_bucket` |
| `Stage.bulk`, `Stage.single` | `bulk_delete` and `parallel_delete` at work |
| `Call.afterBulk`, `Call.afterSingle` | how `evict` goes on after each of them |
| `Stage.removing`, `Stage.awaiting` | the loop of `remove_prefix` over the units that were held back |
| `Stage.closing` | `remove_bucket` after `evict` |
| `Step.abort` | the first branch of `S3Client.run_cancellable` |
-/
namespace ObjectVolume

/-- The first token becomes the second when it, or a token that it is derived from, is cancelled. -/
inductive Token.Cancels : Token → Token → Prop
  | self (t : Token) : Cancels t t.cancel
  | parent {p p' : Token} (c : Bool) : Cancels p p' → Cancels (child p c) (child p' c)

theorem Token.Cancels.isCancelled {t t' : Token} (h : t.Cancels t') : t'.isCancelled = true := by
  induction h with
  | self t => exact t.isCancelled_cancel
  | parent c _ ih => simp [Token.isCancelled, ih]

namespace Eviction

open Store (Event Reply)

/-! ## Calls and their stages -/

/-- What is to be evicted. -/
inductive Target where
  /-- Everything below a prefix, and its marker last. -/
  | below (root : String)
  /-- Everything in a bucket, and the bucket last. -/
  | bucket

/-- What the keys to be evicted start with. -/
def Target.scope : Target → String
  | below root => Prefix.scope root
  | bucket => ""

/-- The key that goes last. -/
def Target.marker : Target → Option String
  | below root => if Prefix.isRoot root then none else some (Prefix.marker root)
  | bucket => none

/-- The operation of a volume's client that evicts the target. -/
def Target.operation {σ : Type} (S : Store σ) (config : Config) (bucket : String) :
    Target → Operation σ Unit
  | below root => Volume.removePrefix S config bucket root
  | .bucket => Volume.removeBucket S config bucket

structure Call where
  /-- Permits of the single pass. -/
  limit : Nat
  bucket : String
  target : Target

/-- The call of a client. -/
def Call.ofConfig (config : Config) (bucket : String) (target : Target) : Call :=
  ⟨config.parallelism.toNat, bucket, target⟩

inductive Stage where
  | called
  /-- The bulk pass is at work. -/
  | bulk (rest : List Event) (p : Bulk.Pass)
  /-- The bulk pass has failed. -/
  | between (primary : Error)
  /-- The single pass is at work. -/
  | single (primary : Error) (rest : List Event) (p : Single.Pass)
  /-- A pass was clean; these versions of the marker are still to be removed. -/
  | removing (held : List ObjectRef)
  /-- The removal of a version of the marker is under way, with these to follow. -/
  | awaiting (ref : ObjectRef) (held : List ObjectRef)
  /-- A pass was clean; the bucket is still to be removed. -/
  | closing
  | answered (answer : Outcome Unit)

namespace Call

variable (c : Call)

def scope : String := c.target.scope

def marker : Option String := c.target.marker

def request : Store.BulkRequest := ⟨c.bucket, true⟩

/-- What comes after a clean pass. -/
def afterPass (held : List ObjectRef) : Stage :=
  match c.target with
  | .below _ => .removing held
  | .bucket => .closing

def afterBulk : Bulk.Outcome → Stage
  | .completed held => c.afterPass held
  | .listingFailed e | .requestFailed e => .between e
  | .objectsFailed failed => .between (.bulkDelete c.bucket c.scope failed)

/-- What comes after a single pass with nothing left in flight. -/
def afterSingle (primary : Error) (p : Single.Pass) : Stage :=
  match p.listingError with
  | some e => .answered (.failed (.eviction primary e))
  | none =>
    if p.tally.isComplete then c.afterPass p.held
    else .answered (.failed (.eviction primary
      (.partialEviction c.bucket c.scope p.tally.failed p.tally.attempted)))

end Call

/-- What comes after the removal of a version of the marker. The last one answers the call. -/
def afterRemoval (ref : ObjectRef) (held : List ObjectRef) : Reply Unit → Stage
  | .done _ | .cancels (some _) => if held = [] then .answered (.done ()) else .removing held
  | .failed e => .answered (.failed e)
  | .died message => .answered (.died message)
  | .cancels none => .awaiting ref held

/-- What comes after the removal of the bucket. -/
def afterClosing : Reply Unit → Stage
  | .done _ | .cancels (some _) => .answered (.done ())
  | .failed e => .answered (.failed e)
  | .died message => .answered (.died message)
  | .cancels none => .closing

def Stage.answer? : Stage → Option (Outcome Unit)
  | answered answer => some answer
  | _ => none

/-! ## Steps -/

structure State (σ : Type) where
  store : σ
  token : Token
  stage : Stage

variable {σ : Type}

/-- One step of a call. -/
inductive Step (S : Store σ) (c : Call) : State σ → Action → State σ → Prop
  | begin {s token} (running : token.isCancelled = false) :
      Step S c ⟨s, token, .called⟩ (.list (S.listObjects c.bucket c.scope s).1)
        ⟨(S.listObjects c.bucket c.scope s).2, token,
          .bulk (S.listObjects c.bucket c.scope s).1 {}⟩
  | bulk {x y a} (step : Bulk.Step S c.request c.marker x a y) :
      Step S c ⟨x.store, x.token, .bulk x.rest x.pass⟩ a ⟨y.store, y.token, .bulk y.rest y.pass⟩
  | endBulk {s token rest p} (exhausted : p.Exhausted) :
      Step S c ⟨s, token, .bulk rest p⟩ (.endBulk (S.endBulk c.request s).1)
        ⟨(S.endBulk c.request s).2, token,
          c.afterBulk (p.noteAll (S.endBulk c.request s).1).outcome⟩
  | fallBack {s token primary} (fits : c.limit ≤ Single.maxPermits) :
      Step S c ⟨s, token, .between primary⟩ (.list (S.listObjects c.bucket c.scope s).1)
        ⟨(S.listObjects c.bucket c.scope s).2, token,
          .single primary (S.listObjects c.bucket c.scope s).1 { free := c.limit }⟩
  | tooManyPermits {s token primary} (exceeds : c.limit > Single.maxPermits) :
      Step S c ⟨s, token, .between primary⟩ .inner
        ⟨s, token, .answered (.died "a semaphore may not have more than MAX_PERMITS permits")⟩
  | single {x y a primary} (step : Single.Step S c.bucket c.marker x a y) :
      Step S c ⟨x.store, x.token, .single primary x.rest x.pass⟩ a
        ⟨y.store, y.token, .single primary y.rest y.pass⟩
  | die {s token primary message rest p} :
      Step S c ⟨s, token, .single primary (.died message :: rest) p⟩ (.read (.died message))
        ⟨s, token, .answered (.died message)⟩
  | endSingle {s token primary p} (idle : p.inFlight = 0) :
      Step S c ⟨s, token, .single primary [] p⟩ .inner ⟨s, token, c.afterSingle primary p.reap⟩
  | noMarker {s token} :
      Step S c ⟨s, token, .removing []⟩ .inner ⟨s, token, .answered (.done ())⟩
  | startMarker {s token ref held} :
      Step S c ⟨s, token, .removing (ref :: held)⟩ (.startMarker ref)
        ⟨S.startRemoval c.bucket ref s, token, .awaiting ref held⟩
  | finishMarker {s token ref held} :
      Step S c ⟨s, token, .awaiting ref held⟩ (.finishMarker ref (S.endRemoval c.bucket ref s).1)
        ⟨(S.endRemoval c.bucket ref s).2, (S.endRemoval c.bucket ref s).1.tokenAfter token,
          afterRemoval ref held (S.endRemoval c.bucket ref s).1⟩
  | removeBucket {s token} :
      Step S c ⟨s, token, .closing⟩ (.removeBucket (S.removeBucket c.bucket s).1)
        ⟨(S.removeBucket c.bucket s).2, (S.removeBucket c.bucket s).1.tokenAfter token,
          afterClosing (S.removeBucket c.bucket s).1⟩
  /-- The cancellation is noticed, which may be at any later time. -/
  | abort {s token stage} (cancelled : token.isCancelled = true) (open_ : stage.answer? = none) :
      Step S c ⟨s, token, stage⟩ .abort ⟨s, token, .answered (.failed .cancelled)⟩

/-- A call that has answered takes no more steps. -/
theorem Step.answer?_eq_none {S : Store σ} {c : Call} {x y : State σ} {a : Action}
    (h : Step S c x a y) : x.stage.answer? = none := by
  cases h with
  | abort _ open_ => exact open_
  | _ => rfl

theorem Step.stage_ne_answered {S : Store σ} {c : Call} {x y : State σ} {a : Action}
    (h : Step S c x a y) (answer : Outcome Unit) : x.stage ≠ .answered answer := by
  intro ha
  have hopen := h.answer?_eq_none
  rw [ha] at hopen
  cases hopen

/-! ## Runs -/

/-- A run of a call with the actions of its steps. Cancellations come from outside, at any moment, if
`outside` allows for them. -/
inductive Run (S : Store σ) (c : Call) (outside : Bool) : State σ → List Action → State σ → Prop
  | refl (x : State σ) : Run S c outside x [] x
  | step {x y z t a} : Run S c outside x t y → Step S c y a z → Run S c outside x (t ++ [a]) z
  | cancel {x y t token} (allowed : outside = true) : Run S c outside x t y → y.token.Cancels token →
      Run S c outside x t { y with token }

namespace Run

variable {S : Store σ} {c : Call} {outside : Bool} {x y z : State σ} {t u : List Action}

theorem one {a : Action} (h : Step S c x a y) : Run S c outside x [a] y :=
  .step (.refl x) h

theorem trans (h : Run S c outside x t y) (h' : Run S c outside y u z) :
    Run S c outside x (t ++ u) z := by
  induction h' with
  | refl => simpa using h
  | step _ hs ih => rw [← List.append_assoc]; exact .step ih hs
  | cancel allowed _ hc ih => exact .cancel allowed ih hc

theorem mono {outside' : Bool} (h : Run S c outside x t y) (hle : outside = true → outside' = true) :
    Run S c outside' x t y := by
  induction h with
  | refl => exact .refl _
  | step _ hs ih => exact .step ih hs
  | cancel allowed _ hc ih => exact .cancel (hle allowed) ih hc

end Run

/-- On every way that a call can take from here it comes to an end, and every end satisfies `P`. -/
inductive Ends (S : Store σ) (c : Call) (P : Outcome Unit → σ → Prop) : State σ → Prop
  | answered {x answer} : x.stage = .answered answer → P answer x.store → Ends S c P x
  | steps {x} : (∃ a y, Step S c x a y) → (∀ a y, Step S c x a y → Ends S c P y) → Ends S c P x

namespace Ends

variable {S : Store σ} {c : Call} {P Q : Outcome Unit → σ → Prop} {x y : State σ}

theorem holds {answer : Outcome Unit} (h : Ends S c P x) (ha : x.stage = .answered answer) :
    P answer x.store := by
  cases h with
  | answered ha' hp =>
    rw [ha] at ha'
    cases ha'
    exact hp
  | steps hstep _ =>
    obtain ⟨a, y, hs⟩ := hstep
    exact absurd ha (hs.stage_ne_answered answer)

theorem imp (h : Ends S c P x) (hpq : ∀ answer s, P answer s → Q answer s) : Ends S c Q x := by
  induction h with
  | answered ha hp => exact .answered ha (hpq _ _ hp)
  | steps hstep _ ih => exact .steps hstep ih

/-- What comes of every way comes of the rest of each of them. -/
theorem run {t : List Action} (h : Ends S c P x) (hr : Run S c false x t y) : Ends S c P y := by
  induction hr with
  | refl => exact h
  | step _ hs ih =>
    cases ih with
    | answered ha _ => exact absurd ha (hs.stage_ne_answered _)
    | steps _ hall => exact hall _ _ hs
  | cancel allowed => cases allowed

/-- A call comes to an end if in every state that an invariant allows it has answered or can go on,
and its steps lead down a well-founded order. -/
theorem of_invariant {ι : Type} {r : ι → ι → Prop} (wf : WellFounded r) (size : State σ → ι)
    (I : State σ → Prop) (hx : I x)
    (keep : ∀ {x a y}, I x → Step S c x a y → I y ∧ r (size y) (size x))
    (go : ∀ {x}, I x → x.stage.answer? = none → ∃ a y, Step S c x a y)
    (hold : ∀ {x answer}, I x → x.stage = .answered answer → P answer x.store) : Ends S c P x := by
  induction hi : size x using wf.induction generalizing x with
  | h i ih =>
    subst hi
    cases ha : x.stage.answer? with
    | some answer =>
      have hstage : x.stage = .answered answer := by
        cases hs : x.stage <;> simp_all [Stage.answer?]
      exact .answered hstage (hold hx hstage)
    | none =>
      refine .steps (go hx ha) ?_
      intro a y hs
      obtain ⟨hy, hlt⟩ := keep hx hs
      exact ih _ hlt hy rfl

end Ends

end Eviction

end ObjectVolume
