import ObjectVolume.Proofs.Eviction.Listing
import ObjectVolume.Proofs.Store.Watched
/-!
# Watching an eviction

An eviction of the watched store in memory mirrors that of the store itself, and reaches it: part by
part, one lemma for each function that an eviction consists of.
-/
namespace ObjectVolume.Eviction

open Operation (Mirrors Reaches)
open Store (memory Event Reply)

variable {E : Error → Prop} {bucket : String} {marker : Option String}

theorem mirrors_listObjects (bucket scope : String) :
    Mirrors E (Operation.onStore (memory.watched.listObjects bucket scope))
      (Operation.onStore (memory.listObjects bucket scope)) Calm :=
  .onStore fun m => calm_list m bucket scope

/-! ## The single pass -/

namespace Single

theorem mirrors_startAll (refs : List ObjectRef) (p : Pass) :
    Mirrors E (startAll memory.watched bucket refs p) (startAll memory bucket refs p)
      fun _ => True := by
  induction refs generalizing p with
  | nil => exact .value _
  | cons ref rest ih =>
    exact (Mirrors.act fun s => ((), memory.startRemoval bucket ref s)).bind fun _ _ => ih p.start

/-- Removals of the store in memory answer without cancelling the client. -/
theorem mirrors_endRemoval (ref : ObjectRef) :
    Mirrors E (Operation.onStore (memory.watched.endRemoval bucket ref))
      (Operation.onStore (memory.endRemoval bucket ref)) fun reply => ∃ r, reply = .ofExcept r :=
  .onStore fun s => ⟨(s.endRemoval bucket ref).1, rfl⟩

theorem mirrors_endAll (refs : List ObjectRef) (p : Pass) :
    Mirrors E (endAll memory.watched bucket refs p) (endAll memory bucket refs p) fun _ => True := by
  induction refs generalizing p with
  | nil => exact .value _
  | cons ref rest ih =>
    refine (mirrors_endRemoval ref).bind ?_
    rintro reply ⟨r, rfl⟩
    cases r with
    | ok => exact ih _
    | error => exact ih _

theorem mirrors_finishRound (p : Pass) :
    Mirrors E (finishRound memory.watched bucket p) (finishRound memory bucket p) fun _ => True := by
  refine (mirrors_startAll _ _).bind fun p _ => ?_
  refine .getBind fun w => ?_
  refine (Mirrors.wait _).bind fun _ _ => ?_
  refine (mirrors_endAll _ _).bind fun p _ => ?_
  exact Mirrors.checkpoint.bind fun _ _ => .value _

theorem mirrors_drive {events : List Event} (calm : Calm events) (p : Pass) :
    Mirrors E (drive memory.watched bucket marker events p) (drive memory bucket marker events p)
      fun _ => True := by
  induction events generalizing p with
  | nil => exact .value _
  | cons e rest ih =>
    have ih := ih fun e he => calm e (List.mem_cons_of_mem _ he)
    obtain ⟨hdied, hcancels⟩ := calm e List.mem_cons_self
    cases e with
    | found ref =>
      simp only [drive]
      split
      · exact ih _
      · split
        · exact (mirrors_finishRound p).bind fun p _ => ih _
        · exact (Mirrors.value p).bind fun p _ => ih _
    | failed e => exact .value _
    | died message => exact absurd rfl (hdied message)
    | pause =>
      refine (mirrors_startAll _ _).bind fun p _ => ?_
      exact (Mirrors.wait 0).bind fun _ _ => ih p
    | cancels stalls => exact absurd rfl (hcancels stalls)

theorem mirrors_run (limit : Nat) (scope : String) :
    Mirrors (fun _ => True) (run memory.watched limit bucket scope marker)
      (run memory limit bucket scope marker) fun _ => True := by
  unfold run
  split
  · exact .die _
  · refine (mirrors_listObjects bucket scope).bind fun events calm => ?_
    refine (mirrors_drive calm _).bind fun p _ => ?_
    split
    · refine (Mirrors.value p).bind fun p _ => ?_
      dsimp only
      split
      · exact .fail trivial
      · exact .value _
    · refine (mirrors_finishRound p).bind fun p _ => ?_
      dsimp only
      split
      · exact .fail trivial
      · exact .value _

end Single

/-! ## The bulk pass -/

namespace Bulk

variable {request : Store.BulkRequest}

theorem mirrors_handOver (p : Pass) :
    Mirrors E (handOver memory.watched request p) (handOver memory request p) fun _ => True := by
  unfold handOver
  dsimp only
  split
  · exact .value _
  · exact (Mirrors.act _).bind fun _ _ => .value _

theorem mirrors_drive {events : List Event} (calm : Calm events) (p : Pass) :
    Mirrors E (drive memory.watched request marker events p) (drive memory request marker events p)
      fun _ => True := by
  induction events generalizing p with
  | nil => exact mirrors_handOver _
  | cons e rest ih =>
    have ih := ih fun e he => calm e (List.mem_cons_of_mem _ he)
    obtain ⟨hdied, hcancels⟩ := calm e List.mem_cons_self
    cases e with
    | found ref => exact ih _
    | failed e => exact mirrors_handOver _
    | died message => exact absurd rfl (hdied message)
    | pause =>
      refine (mirrors_handOver p).bind fun p _ => ?_
      exact (Mirrors.wait 0).bind fun _ _ => ih p
    | cancels stalls => exact absurd rfl (hcancels stalls)

theorem mirrors_run (scope : String) :
    Mirrors E (run memory.watched bucket scope marker) (run memory bucket scope marker)
        (fun _ => True) ∧
      Reaches (run memory.watched bucket scope marker) := by
  refine Mirrors.reaching_bind ⟨mirrors_listObjects bucket scope, .onStore _⟩ fun events calm => ?_
  refine (Mirrors.wait 0).bind fun _ _ => ?_
  refine (mirrors_drive calm {}).bind fun p _ => ?_
  exact (Mirrors.act (memory.endBulk ⟨bucket, true⟩)).bind fun _ _ => .value _

end Bulk

/-! ## Both passes, and what goes last -/

theorem mirrors_fallBack (limit : Nat) (scope : String) (primary : Error) :
    Mirrors (· ≠ .cancelled) (fallBack memory.watched limit bucket scope marker primary)
      (fallBack memory limit bucket scope marker primary) fun _ => True := by
  have hrun : Mirrors (fun _ => True)
      (Except.ok (ε := Error) <$> Single.run memory.watched limit bucket scope marker)
      (Except.ok <$> Single.run memory limit bucket scope marker) fun _ => True :=
    (Single.mirrors_run limit scope).map fun _ _ => trivial
  refine Mirrors.bind (.catching .error hrun (fun _ => trivial) (fun e => ⟨rfl, rfl⟩) ?_) ?_
  · intro stop hne
    cases stop with
    | failed e => exact absurd rfl (hne e)
    | died message => exact ⟨rfl, rfl⟩
    | interrupted => exact ⟨rfl, rfl⟩
  · rintro (e | ⟨tally, held⟩) -
    · exact .fail (by simp)
    · dsimp only
      split
      · exact .value _
      · exact .fail (by simp)

theorem mirrors_evict (limit : Nat) (scope : String) :
    Mirrors (· ≠ .cancelled) (evict memory.watched limit bucket scope marker)
        (evict memory limit bucket scope marker) (fun _ => True) ∧
      Reaches (evict memory.watched limit bucket scope marker) := by
  refine Mirrors.reaching_bind (Bulk.mirrors_run scope) fun outcome _ => ?_
  cases outcome with
  | completed held => exact .value held
  | listingFailed e => exact mirrors_fallBack limit scope e
  | requestFailed e => exact mirrors_fallBack limit scope e
  | objectsFailed failed => exact mirrors_fallBack limit scope _

theorem mirrors_removeObject (ref : ObjectRef) :
    Mirrors (· ≠ .cancelled) (removeObject memory.watched bucket ref)
      (removeObject memory bucket ref) fun _ => True := by
  refine (Mirrors.act fun s => ((), memory.startRemoval bucket ref s)).bind fun _ _ => ?_
  refine .getBind fun w => ?_
  refine (Mirrors.wait _).bind fun _ _ => ?_
  exact .call (fun s => rfl) (by simp)

theorem mirrors_removeObjects (held : List ObjectRef) :
    Mirrors (· ≠ .cancelled) (removeObjects memory.watched bucket held)
      (removeObjects memory bucket held) fun _ => True := by
  induction held with
  | nil => exact .value ()
  | cons ref rest ih => exact (mirrors_removeObject ref).bind fun _ _ => ih

theorem mirrors_removePrefix (bucket : String) (limit : Nat) (root : String) :
    Mirrors (· ≠ .cancelled) (removePrefix memory.watched limit bucket root)
        (removePrefix memory limit bucket root) (fun _ => True) ∧
      Reaches (removePrefix memory.watched limit bucket root) :=
  Mirrors.reaching_bind (mirrors_evict limit _) fun held _ => mirrors_removeObjects held

theorem mirrors_removeBucket (bucket : String) (limit : Nat) :
    Mirrors (· ≠ .cancelled) (removeBucket memory.watched limit bucket)
        (removeBucket memory limit bucket) (fun _ => True) ∧
      Reaches (removeBucket memory.watched limit bucket) :=
  Mirrors.reaching_bind (mirrors_evict limit "") fun _ _ => .call (fun _ => rfl) (by simp)

end ObjectVolume.Eviction
