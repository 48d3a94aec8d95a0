import ObjectVolume.Proofs.Cli.Execution
import ObjectVolume.Proofs.Error
import ObjectVolume.Proofs.Eviction.Answer
/-!
# How a failed deletion is told

A deletion that fails says what was being done, then what its error reads as, and then all that is behind
the error. If the removals of both passes failed, the counts of the single pass are behind the error of
the bulk pass, whatever that is.
-/
namespace ObjectVolume

/-- An operation that can be cancelled fails with the first of its parts that fails. -/
theorem Operation.outcome_cancellable_of_failed {σ α β : Type} {w w' : World σ} {op : Operation σ α}
    (f : α → Operation σ β) {e : Error} (live : w.token.isCancelled = false)
    (h : op.outcome w = (.error (.failed e), w')) :
    (cancellable (op >>= f)).outcome w = (.error (.failed e), w') := by
  rw [outcome_cancellable _ live, outcome_bind, h]
  rfl

namespace Eviction

variable {σ : Type} {S : Store σ} {w w' : World σ}

/-- An operation of a client fails as its eviction does. -/
theorem Target.outcome_operation_of_failed {config : Config} {bucket : String} {target : Target}
    {e : Error} (live : w.token.isCancelled = false)
    (h : (evict S config.parallelism.toNat bucket target.scope target.marker).outcome w =
      (.error (.failed e), w')) :
    (target.operation S config bucket).outcome w = (.error (.failed e), w') := by
  cases target with
  | below root => exact Operation.outcome_cancellable_of_failed _ live h
  | bucket => exact Operation.outcome_cancellable_of_failed _ live h

/-- Removals of the single pass that failed are counted behind the error of the bulk pass. -/
theorem outcome_evict_of_incomplete {c : Call} {limit : Nat} {w₁ w₂ : World σ} {o : Bulk.Outcome}
    {primary : Error} {tally : Tally} {held : List ObjectRef}
    (hbulk : (Bulk.run S c.bucket c.scope c.marker).outcome w = (.ok o, w₁))
    (hprimary : c.primary? o = some primary)
    (hsingle : (Single.run S limit c.bucket c.scope c.marker).outcome w₁ = (.ok (tally, held), w₂))
    (incomplete : tally.isComplete = false) :
    (evict S limit c.bucket c.scope c.marker).outcome w =
      (.error (.failed (.eviction primary
        (.partialEviction c.bucket c.scope tally.failed tally.attempted))), w₂) := by
  rw [outcome_evict_of_primary hbulk hprimary, outcome_fallBack, hsingle, Call.answer, incomplete]
  rfl

end Eviction

namespace Session

open Cli (Failure deletionTarget deletionStep)
open Eviction (Target Tally)

variable {σ : Type} {S : Store σ} {s : Session σ} {alarm : Option Moment} {bucket root : String}

/-- The world in which a session starts an operation. -/
def world (s : Session σ) (alarm : Option Moment) : World σ :=
  { store := s.store, token := s.client.token, alarm }

/-- The bulk pass of an eviction fails with `primary`, and so do removals of its single pass, as they are
counted in `tally`. -/
structure FailsTwice (S : Store σ) (s : Session σ) (alarm : Option Moment) (bucket : String)
    (target : Target) (primary : Error) (tally : Tally) : Prop where
  live : s.client.token.isCancelled = false
  bulk : ∃ o, ((Eviction.Bulk.run S bucket target.scope target.marker).outcome
      (s.world alarm)).1 = .ok o ∧ (s.call bucket target).primary? o = some primary
  single : ∃ held, ((Eviction.Single.run S s.client.config.parallelism.toNat bucket target.scope
      target.marker).outcome ((Eviction.Bulk.run S bucket target.scope target.marker).outcome
        (s.world alarm)).2).1 = .ok (tally, held)
  incomplete : tally.isComplete = false

theorem FailsTwice.evict {target : Target} {primary : Error} {tally : Tally}
    (h : s.FailsTwice S alarm bucket target primary tally) :
    (s.evict S alarm bucket target).1 = .failed (.eviction primary
      (.partialEviction bucket target.scope tally.failed tally.attempted)) := by
  obtain ⟨o, hbulk, hprimary⟩ := h.bulk
  obtain ⟨held, hsingle⟩ := h.single
  rcases hb : (Eviction.Bulk.run S bucket target.scope target.marker).outcome (s.world alarm) with
    ⟨r, w₁⟩
  rw [hb] at hbulk hsingle
  cases hbulk
  rcases hs : (Eviction.Single.run S s.client.config.parallelism.toNat bucket target.scope
    target.marker).outcome w₁ with ⟨r, w₂⟩
  rw [hs] at hsingle
  cases hsingle
  have hfails : (Eviction.evict S s.client.config.parallelism.toNat bucket target.scope
      target.marker).outcome (s.world alarm) = (.error (.failed (.eviction primary
        (.partialEviction bucket target.scope tally.failed tally.attempted))), w₂) :=
    Eviction.outcome_evict_of_incomplete (c := s.call bucket target) hb hprimary hs h.incomplete
  have hends : s.evict S alarm bucket target = _ :=
    run_of_outcome (Target.outcome_operation_of_failed h.live hfails)
  rw [hends]
  rfl

/-- A deletion fails exactly if its eviction does, and says so. -/
theorem execute_delete_eq_error_iff {f : Failure} {s' : Session σ} :
    s.execute S alarm (.delete bucket root) = (.done (.error f), s') ↔
      f.doing = deletionStep bucket root ∧
        s.evict S alarm bucket (deletionTarget root) = (.failed f.error, s') := by
  rw [execute_delete]
  obtain ⟨doing, e⟩ := f
  rcases s.evict S alarm bucket (deletionTarget root) with ⟨⟨⟩ | e' | message, s''⟩
  · simp [deletionEnd]
  · simp only [deletionEnd, Prod.mk.injEq, Outcome.done.injEq, Except.error.injEq, Failure.mk.injEq,
      Outcome.failed.injEq, and_assoc, eq_comm]
  · simp [deletionEnd]

/-- **How failed deletions are told.** Every error reads as the first errors lead, and is caused as the
second errors lead. So a failure says what was being done, what its error reads as, and the fallbacks of
the error in their order. On any store, a deletion fails as its eviction does, and tells what the single
pass counts whenever a removal has failed in it. -/
theorem execute_delete_tells (S : Store σ) (s : Session σ) (alarm : Option Moment)
    (bucket root : String) (library : String → List String) :
    (∀ e : Error, e.Tells library) ∧
    (∀ f : Failure, f.message = ": ".intercalate (f.doing :: f.error.reading.message ::
      (f.error.fallbacks.map Error.message ++ f.error.lastFallback.causes))) ∧
    (∀ f s', s.execute S alarm (.delete bucket root) = (.done (.error f), s') ↔
      f.doing = deletionStep bucket root ∧
        s.evict S alarm bucket (deletionTarget root) = (.failed f.error, s')) ∧
    ∀ primary tally, s.FailsTwice S alarm bucket (deletionTarget root) primary tally →
      ∃ f, (s.execute S alarm (.delete bucket root)).1 = .done (.error f) ∧
        f.error = .eviction primary (.partialEviction bucket (deletionTarget root).scope tally.failed
          tally.attempted) ∧
        f.message = ": ".intercalate [deletionStep bucket root, primary.message,
          (Error.partialEviction bucket (deletionTarget root).scope tally.failed
            tally.attempted).message] := by
  refine ⟨Error.tells library, fun f => Error.inContext_eq f.doing f.error,
    fun f s' => execute_delete_eq_error_iff, ?_⟩
  intro primary tally h
  rcases he : s.evict S alarm bucket (deletionTarget root) with ⟨r, s'⟩
  have hevict := h.evict
  rw [he] at hevict
  subst hevict
  have hfails := (execute_delete_eq_error_iff (f := ⟨deletionStep bucket root, _⟩)).2 ⟨rfl, he⟩
  exact ⟨_, congrArg (·.1) hfails, rfl, rfl⟩

deriving instance DecidableEq for Eviction.Bulk.Outcome

/-- A request of the bulk pass fails, and so does one of the two removals of the single pass. -/
def failingTwice : Session Store.Scripted where
  store := { script := {
    listings := [[.found ⟨"vol/a", none⟩],
      [.found ⟨"vol/", none⟩, .found ⟨"vol/a", none⟩, .found ⟨"vol/a", some "v1"⟩]]
    bulk := fun _ => some (.failRequest (.eviction (.io "reset") .cancelled))
    removal := fun ref => if ref.version.isSome then .fail .cancelled else .succeed } }
  client := ⟨{ credentials := ⟨"key", "secret", none⟩, region := "", endpoint := "http://[::1]" },
    .fresh⟩

theorem execute_delete_tells_twice :
    failingTwice.FailsTwice Store.scripted none "data" (deletionTarget "vol")
      (.eviction (.io "reset") .cancelled) ⟨2, 1⟩ ∧
    ∃ f s', failingTwice.execute Store.scripted none (.delete "data" "vol") = (.done (.error f), s') ∧
      f.error.lastFallback = .partialEviction "data" "vol/" 1 2 ∧
      f.message = "failed to remove 'data/vol': I/O error: reset: " ++
        "Failed to remove 1 objects out of total 2 of data/vol/" := by
  have hfails : failingTwice.FailsTwice Store.scripted none "data" (deletionTarget "vol")
      (.eviction (.io "reset") .cancelled) ⟨2, 1⟩ :=
    { live := rfl
      bulk := ⟨.requestFailed (.eviction (.io "reset") .cancelled), by decide +kernel, rfl⟩
      single := ⟨[⟨"vol/", none⟩], by decide +kernel⟩
      incomplete := rfl }
  obtain ⟨htells, htold, hdeleted, hcounts⟩ :=
    execute_delete_tells Store.scripted failingTwice none "data" "vol" fun _ => []
  obtain ⟨f, hf, herror, -⟩ := hcounts _ _ hfails
  rcases he : failingTwice.execute Store.scripted none (.delete "data" "vol") with ⟨r, s'⟩
  rw [he] at hf
  subst hf
  have hlast := (htells f.error).counts "data" "vol/" 1 2 (by rw [herror]; exact List.mem_cons_self)
  refine ⟨hfails, f, s', rfl, hlast.1, ?_⟩
  rw [htold f, ((hdeleted f s').1 he).1, herror]
  decide +kernel

end Session

end ObjectVolume
