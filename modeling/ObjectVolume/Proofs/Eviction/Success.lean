import ObjectVolume.Proofs.Eviction.Contents
/-!
# When evictions succeed

An eviction of the store in memory succeeds exactly if the bucket exists, at most one listing breaks
off and the deletion of nothing in the scope is refused. The scope is then empty, and nothing else has
changed. How bulk deletions behave is of no consequence for either.
-/
namespace ObjectVolume

namespace Eviction

open Store (Memory memory KeyMap Bucket)

/-- An eviction can succeed. -/
def Evictable (m : Memory) (bucket : String) (target : Target) : Prop :=
  ∃ b, m.buckets.find? bucket = some b ∧ m.faults.failingListings ≤ 1 ∧
    ∀ key, target.Covers key → b.versionsOf key ≠ [] → key ∉ m.faults.failingKeys

variable {m : Memory} {c : Call}

theorem evictable_iff :
    Evictable m c.bucket c.target ↔
      c.interruption m (m.faults.failingListings - 1) = none ∧ m.refused (c.listed m) = [] := by
  cases hb : m.buckets.find? c.bucket with
  | none => simp [Evictable, hb, Call.interruption]
  | some b =>
    have harmed : c.interruption m (m.faults.failingListings - 1) = none ↔
        m.faults.failingListings ≤ 1 := by
      rw [Call.interruption_eq_none_iff hb]
      omega
    have hrefused : m.refused (c.listed m) = [] ↔
        ∀ key, c.target.Covers key → b.versionsOf key ≠ [] → key ∉ m.faults.failingKeys := by
      rw [Memory.refused, List.filter_eq_nil_iff]
      constructor
      · intro h key hkey hne hfails
        obtain ⟨v, hv⟩ := List.exists_mem_of_ne_nil _ hne
        exact h ⟨key, v.id⟩ ((mem_listed_iff hb).2 ⟨hkey, v, hv, rfl⟩)
          (by simpa [Memory.refuses] using hfails)
      · intro h ref hm hrefuses
        obtain ⟨hkey, v, hv, -⟩ := (mem_listed_iff hb).1 hm
        exact h ref.key hkey (List.ne_nil_of_mem hv) (by simpa [Memory.refuses] using hrefuses)
    rw [harmed, hrefused]
    simp [Evictable, hb]

/-- What is listed is the marker and what is doomed. -/
theorem refused_listed_iff :
    m.refused (c.listed m) = [] ↔ m.refused (c.doomed m) = [] ∧ m.refused (c.markers m) = [] := by
  simp only [Memory.refused, List.filter_eq_nil_iff, Call.mem_doomed, Call.mem_markers]
  constructor
  · intro h
    exact ⟨fun ref hm => h ref hm.1, fun ref hm => h ref hm.1⟩
  · rintro ⟨hdoomed, hmarkers⟩ ref hm
    by_cases hkey : c.marker = some ref.key
    · exact hmarkers ref ⟨hm, hkey⟩
    · exact hdoomed ref ⟨hm, hkey⟩

/-- **Success.** -/
theorem verdict_done_iff (hs : m.Sound) :
    ((c.verdict m).1 = .done () ↔ Evictable m c.bucket c.target) ∧
      ((c.verdict m).1 = .done () → Evicted m.buckets c.bucket c.target (c.verdict m).2) := by
  rw [evictable_iff, refused_listed_iff]
  unfold Call.verdict
  cases hi : c.interruption m (m.faults.failingListings - 1) with
  | some e => simp
  | none =>
    by_cases hdoomed : m.refused (c.doomed m) = []
    · simp only [hdoomed, if_true, true_and, Call.lastVerdict]
      cases htarget : c.target with
      | bucket =>
        have hmarkers : m.refused (c.markers m) = [] := by
          simp [Call.markers, Call.marker, Target.marker, htarget, heldBack_none, Memory.refused]
        simp only [hmarkers, true_and, true_implies]
        rw [← htarget]
        exact evicted_erase htarget
      | below root =>
        cases hmarkers : m.refused (c.markers m) with
        | cons ref rest => simp
        | nil =>
          simp only [true_and, true_implies]
          rw [← htarget]
          exact evicted_without hs htarget
    · simp [hdoomed]

end Eviction

namespace Session

open Eviction
open Store (Memory memory BulkBehavior)

/-- The session with another behaviour of bulk deletions. -/
def withBulk (s : Session Memory) (bulk : BulkBehavior) : Session Memory :=
  { s with store := { s.store with faults := { s.store.faults with bulk } } }

/-- **Success of evictions.** In whatever order its tasks take their steps, the call comes to an end,
and with success exactly if the target can be evicted; it then is. The operation of the client does
the same, and how bulk deletions behave makes no difference to it. -/
theorem evict_succeeds_iff (s : Session Memory) (reachable : s.store.Reachable)
    (live : s.client.token.isCancelled = false)
    (some_permit : 1 ≤ s.client.config.parallelism.toNat)
    (permits : s.client.config.parallelism.toNat ≤ Single.maxPermits) (bucket : String)
    (target : Target) :
    Ends memory (s.call bucket target) (fun answer m =>
        (answer = .done () ↔ Evictable s.store bucket target) ∧
          (answer = .done () → Evicted s.store.buckets bucket target m.buckets))
      ⟨s.store, s.client.token, .called⟩ ∧
    ((s.evict memory none bucket target).1 = .done () ↔ Evictable s.store bucket target) ∧
    ((s.evict memory none bucket target).1 = .done () →
      Evicted s.store.buckets bucket target (s.evict memory none bucket target).2.store.buckets) ∧
    ∀ bulk,
      (((s.withBulk bulk).evict memory none bucket target).1 = .done () ↔
        (s.evict memory none bucket target).1 = .done ()) ∧
      ((s.evict memory none bucket target).1 = .done () →
        ((s.withBulk bulk).evict memory none bucket target).2.store.buckets =
          (s.evict memory none bucket target).2.store.buckets) := by
  have hsession (s' : Session Memory) (hs : s'.store.Sound)
      (live : s'.client.token.isCancelled = false) (hclient : s'.client = s.client) :
      ((s'.evict memory none bucket target).1 = .done () ↔ Evictable s'.store bucket target) ∧
        ((s'.evict memory none bucket target).1 = .done () →
          Evicted s'.store.buckets bucket target
            (s'.evict memory none bucket target).2.store.buckets) := by
    have hverdict := verdict_of_evict hs live (by rw [hclient]; exact some_permit)
      (by rw [hclient]; exact permits) bucket target
    have hdone := verdict_done_iff (c := s'.call bucket target) hs
    rw [← hverdict] at hdone
    exact hdone
  have hs := reachable.sound
  obtain ⟨hiff, hevicted⟩ := hsession s hs live rfl
  refine ⟨?_, hiff, hevicted, fun bulk => ?_⟩
  · refine (ends_with_verdict hs permits some_permit live).imp ?_
    intro answer m h
    have hdone := verdict_done_iff (c := s.call bucket target) hs
    rw [← h] at hdone
    exact hdone
  · obtain ⟨hiff', hevicted'⟩ := hsession (s.withBulk bulk) hs live rfl
    have hsame : Evictable (s.withBulk bulk).store bucket target ↔ Evictable s.store bucket target :=
      Iff.rfl
    have hdone := hiff'.trans (hsame.trans hiff.symm)
    refine ⟨hdone, fun h => ?_⟩
    obtain ⟨b, hb, -⟩ := hiff.1 h
    exact (hevicted' (hdone.2 h)).unique hb (hevicted h)

theorem evict_succeeds_volume :
    (volumeSession.evict memory none "data" (.below "vol")).1 = .done () ∧
      Evicted volumeStore.buckets "data" (.below "vol")
        (volumeSession.evict memory none "data" (.below "vol")).2.store.buckets := by
  obtain ⟨-, hiff, hevicted, -⟩ := evict_succeeds_iff volumeSession volumeStore_reachable rfl
    (by decide) (by decide) "data" (.below "vol")
  have hbucket : (volumeStore.buckets.find? "data").isSome = true := by decide
  have hkeys : volumeStore.faults.failingKeys = [] := rfl
  obtain ⟨b, hb⟩ := Option.isSome_iff_exists.1 hbucket
  have hdone := hiff.2 ⟨b, hb, by decide, fun key _ _ => hkeys ▸ List.not_mem_nil⟩
  exact ⟨hdone, hevicted hdone⟩

end Session

end ObjectVolume
