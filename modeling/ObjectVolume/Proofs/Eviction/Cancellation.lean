import ObjectVolume.Proofs.Eviction.Abandoned
import ObjectVolume.Proofs.Eviction.Contents
/-!
# Cancelled evictions

A cancellation may come at any moment of an eviction, and be noticed at any later one. The call either
answers what it would have answered, and leaves the same contents, or answers that it was cancelled:
it is then `Interrupted`, with nothing lost outside of its scope and the marker kept. So it remains
whatever becomes of the tasks that it leaves behind, and on a runtime that aborts them they come to an
end and change nothing more.
-/
namespace ObjectVolume

namespace Eviction

open Store (Memory memory KeyMap Bucket Reply)

/-- Nothing has changed but that versions of covered keys are gone, and not all of the marker. -/
structure Interrupted (before : KeyMap Bucket) (bucket : String) (target : Target)
    (after : KeyMap Bucket) : Prop where
  spared : Spared before bucket target after
  marked : ∀ b b' key, before.find? bucket = some b → after.find? bucket = some b' →
    target.marker = some key → b.versionsOf key ≠ [] → b'.versionsOf key ≠ []

variable {m m' : Memory} {c : Call} {x y : State Memory} {t : List Action}

/-- The marker of a target is among what it covers. -/
theorem Target.covers_marker {target : Target} {key : String} (h : target.marker = some key) :
    target.Covers key := by
  cases target with
  | bucket => cases h
  | below root =>
    by_cases hroot : Prefix.isRoot root = true
    · simp [Target.marker, hroot] at h
    · have hscope : Target.scope (.below root) = key := by
        simpa [Target.marker, Target.scope, Prefix.scope, hroot] using h
      simp [Target.Covers, hscope]

/-- What a call has deleted at any moment before its answer interrupts it. -/
theorem Interim.interrupted (h : Interim m c m') (hs : m.Sound) :
    Interrupted m.buckets c.bucket c.target m'.buckets := by
  obtain ⟨gone, armed, lost, hgone, hmarked⟩ := h
  have hlisted : gone ⊆ c.listed m := fun ref hm => (Memory.mem_deletable.1 (hgone hm)).1
  rw [lost.buckets]
  refine ⟨spared_without hs hlisted, ?_⟩
  intro b b' key hb hb' hkey hne
  rw [Memory.find?_without_self hb] at hb'
  cases hb'
  obtain ⟨v, hv⟩ := List.exists_mem_of_ne_nil _ hne
  have hmarker : (⟨key, v.id⟩ : ObjectRef) ∈ c.markers m :=
    Call.mem_markers.2 ⟨(mem_listed_iff hb).2 ⟨Target.covers_marker hkey, v, hv, rfl⟩, hkey⟩
  -- one version of the marker is not gone, and it is one of this key
  obtain ⟨ref, href, hkept⟩ := hmarked (List.ne_nil_of_mem hmarker)
  obtain ⟨hlisted, hrefkey⟩ := Call.mem_markers.1 href
  obtain ⟨-, w, hw, hid⟩ := (mem_listed_iff hb).1 hlisted
  have hsame : ref.key = key := Option.some.inj (hrefkey.symm.trans hkey)
  rw [hsame] at hw
  have hleft : (⟨key, w.id⟩ : ObjectRef) ∉ gone := by
    rw [hid, ← hsame]
    exact hkept
  rw [Bucket.versionsOf_without]
  exact List.ne_nil_of_mem (List.mem_filter.2 ⟨hw, decide_eq_true hleft⟩)

end Eviction

namespace Session

open Eviction
open Store (Memory memory)

/-- A store with one object, whose next listing fails. -/
def brittleStore : Memory :=
  { ({} : Memory).seed "b" ["k"] with faults := { failingListings := 1 } }

/-- The store after two listings, while the object is being removed. -/
def storeLeft : Memory :=
  ((brittleStore.list "b" "").2.list "b" "").2.startRemoval

/-- The removal waits. -/
def removalLeft : Spawned :=
  { task := .started ⟨"k", none⟩, inTurn := false }

/-- On a runtime that lets it go on, the removal deletes the object after the call has answered. -/
theorem detached_removal_deletes : ∃ m left,
    Later Runtime.detaching memory "b" (storeLeft, [removalLeft.drop .detaching]) (m, left) ∧
      (storeLeft.list "b" "").1 = [.found ⟨"k", none⟩] ∧ (m.list "b" "").1 = [] := by
  have enter := @RuntimeStep.enter _ .detaching memory "b" storeLeft [] []
    (removalLeft.drop .detaching) rfl rfl
  have leave := @RuntimeStep.leave _ .detaching memory "b" storeLeft _ [] []
    { removalLeft.drop .detaching with inTurn := true } _ rfl
    (@Turn.finish _ memory "b" ⟨"k", none⟩ storeLeft .done rfl)
  exact ⟨_, _, .tail (.single enter) leave, rfl, rfl⟩

end Session

end ObjectVolume
