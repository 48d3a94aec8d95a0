import ObjectVolume.Proofs.Eviction.Course
import ObjectVolume.Proofs.Eviction.Execution
/-!
# What evictions leave in a store

What a caller sees of an eviction: the scope is emptied (`Evicted`), or everything outside it is
spared (`Spared`). Both are told from the references that are gone.
-/
namespace ObjectVolume

namespace Store.Bucket

variable {b : Bucket} {next : Nat} {gone : List ObjectRef} {key : String}

/-- A key keeps its entry if none of its versions is gone. -/
theorem Sound.find?_without_kept (h : b.Sound next)
    (hkept : ∀ v ∈ b.versionsOf key, ⟨key, v.id⟩ ∉ gone) :
    (b.without gone).objects.find? key = b.objects.find? key := by
  rw [(h.without gone).find?_eq, h.find?_eq, versionsOf_without, leftOf,
    List.filter_eq_self.2 fun v hv => decide_eq_true (hkept v hv)]

/-- A key has no entry if all of its versions are gone. -/
theorem Sound.find?_without_gone (h : b.Sound next)
    (hgone : ∀ v ∈ b.versionsOf key, ⟨key, v.id⟩ ∈ gone) :
    (b.without gone).objects.find? key = none := by
  have hnil : leftOf gone key (b.versionsOf key) = [] :=
    List.filter_eq_nil_iff.2 fun v hv => by simpa using hgone v hv
  rw [(h.without gone).find?_eq, versionsOf_without, hnil]
  rfl

end Store.Bucket

namespace Eviction

open Store (Memory KeyMap Bucket)
open Store.Memory (Lost)

/-- The key is one of those that are to be evicted. -/
def Target.Covers (target : Target) (key : String) : Prop :=
  target.scope.toList <+: key.toList

instance (target : Target) (key : String) : Decidable (target.Covers key) :=
  inferInstanceAs (Decidable (_ <+: _))

/-- Nothing has changed but that versions of covered keys are gone. -/
structure Spared (before : KeyMap Bucket) (bucket : String) (target : Target)
    (after : KeyMap Bucket) : Prop where
  others : ∀ name, name ≠ bucket → after.find? name = before.find? name
  missing : before.find? bucket = none → after.find? bucket = none
  kept : ∀ b, before.find? bucket = some b → ∃ b', after.find? bucket = some b' ∧
    b'.region = b.region ∧ b'.versioned = b.versioned ∧
    (∀ key, ¬ target.Covers key → b'.objects.find? key = b.objects.find? key) ∧
    ∀ key, (b'.versionsOf key).Sublist (b.versionsOf key)

/-- Nothing has changed but that no version of a covered key is left, nor the bucket if that was the
target. -/
structure Evicted (before : KeyMap Bucket) (bucket : String) (target : Target)
    (after : KeyMap Bucket) : Prop where
  others : ∀ name, name ≠ bucket → after.find? name = before.find? name
  emptied : ∀ b, before.find? bucket = some b → match target with
    | .bucket => after.find? bucket = none
    | .below _ => ∃ b', after.find? bucket = some b' ∧ b'.region = b.region ∧
        b'.versioned = b.versioned ∧
        ∀ key, b'.objects.find? key = if target.Covers key then none else b.objects.find? key

variable {m : Memory} {c : Call} {gone : List ObjectRef}

theorem covers_of_mem_listed {ref : ObjectRef} (h : ref ∈ c.listed m) : c.target.Covers ref.key := by
  obtain ⟨b, -, hm⟩ := Call.exists_of_mem_listed h
  exact (Bucket.mem_refs.1 hm).1

theorem mem_listed_iff {b : Bucket} (hb : m.buckets.find? c.bucket = some b) {ref : ObjectRef} :
    ref ∈ c.listed m ↔ c.target.Covers ref.key ∧ ∃ v ∈ b.versionsOf ref.key, v.id = ref.version := by
  rw [Call.listed_eq hb, Bucket.mem_refs]
  rfl

theorem spared_without (hs : m.Sound) (hg : gone ⊆ c.listed m) :
    Spared m.buckets c.bucket c.target (m.without c.bucket gone).buckets := by
  constructor
  case others =>
    intro name hname
    exact Memory.find?_without_of_ne (Ne.symm hname)
  case missing =>
    intro hnone
    simp [Memory.without, hnone]
  case kept =>
    intro b hb
    refine ⟨b.without gone, Memory.find?_without_self hb, rfl, rfl, ?_, ?_⟩
    · intro key hkey
      apply (hs _ _ hb).find?_without_kept
      intro v _ hm
      exact hkey (covers_of_mem_listed (hg hm))
    · intro key
      rw [Bucket.versionsOf_without]
      exact Bucket.leftOf_sublist _ _ _

/-- Without all that is listed, the scope is empty. -/
theorem evicted_without (hs : m.Sound) {root : String} (htarget : c.target = .below root) :
    Evicted m.buckets c.bucket c.target (m.without c.bucket (c.listed m)).buckets := by
  refine ⟨fun name hname => Memory.find?_without_of_ne (Ne.symm hname), ?_⟩
  intro b hb
  rw [htarget]
  refine ⟨b.without (c.listed m), Memory.find?_without_self hb, rfl, rfl, ?_⟩
  intro key
  have hlisted : ∀ v ∈ b.versionsOf key, ((⟨key, v.id⟩ : ObjectRef) ∈ c.listed m ↔
      (Target.below root).Covers key) := by
    intro v hv
    rw [mem_listed_iff hb, htarget]
    constructor
    · rintro ⟨hkey, -⟩
      exact hkey
    · intro hkey
      exact ⟨hkey, v, hv, rfl⟩
  by_cases hkey : (Target.below root).Covers key
  · rw [if_pos hkey]
    apply (hs _ _ hb).find?_without_gone
    intro v hv
    exact (hlisted v hv).2 hkey
  · rw [if_neg hkey]
    apply (hs _ _ hb).find?_without_kept
    intro v hv hm
    exact hkey ((hlisted v hv).1 hm)

/-- A removed bucket leaves the others. -/
theorem evicted_erase (htarget : c.target = .bucket) :
    Evicted m.buckets c.bucket c.target (m.buckets.erase c.bucket) := by
  refine ⟨fun name hname => KeyMap.find?_erase_of_ne _ (Ne.symm hname), fun b _ => ?_⟩
  rw [htarget]
  exact KeyMap.find?_erase_self _ _

/-- There is only one way to be evicted. -/
theorem Evicted.unique {before after after' : KeyMap Bucket} {bucket : String} {target : Target}
    {b : Bucket} (hb : before.find? bucket = some b) (h : Evicted before bucket target after)
    (h' : Evicted before bucket target after') : after = after' := by
  apply KeyMap.ext_find?
  intro name
  by_cases hname : name = bucket
  · subst hname
    have he := h.emptied b hb
    have he' := h'.emptied b hb
    cases target with
    | bucket => exact he.trans he'.symm
    | below root =>
      obtain ⟨c, hc, hregion, hversioned, hobjects⟩ := he
      obtain ⟨c', hc', hregion', hversioned', hobjects'⟩ := he'
      have hsame : c.objects = c'.objects := KeyMap.ext_find? fun key => by
        rw [hobjects, hobjects']
      have hcc : c = c' := by
        cases c
        cases c'
        simp_all
      rw [hc, hc', hcc]
  · rw [h.others name hname, h'.others name hname]

end Eviction

open Eviction in
open Store (Memory memory) in
/-- A session whose client is not cancelled comes to the verdict. -/
theorem Session.verdict_of_evict {s : Session Memory} (hs : s.store.Sound)
    (live : s.client.token.isCancelled = false) (hlimit : 1 ≤ s.client.config.parallelism.toNat)
    (hmax : s.client.config.parallelism.toNat ≤ Single.maxPermits) (bucket : String)
    (target : Target) :
    ((s.evict memory none bucket target).1, (s.evict memory none bucket target).2.store.buckets) =
      (s.call bucket target).verdict s.store := by
  obtain ⟨t, hrun⟩ := s.run_evict none bucket target hlimit
  exact verdict_of_run hs hmax live hrun rfl

/-! ## A volume to try evictions on -/

deriving instance DecidableEq for Outcome

namespace Eviction

open Store (Memory)

/-- A versioned bucket with a prefix: its marker and two versions of an object. -/
def volumeStore : Memory :=
  let m := ({} : Memory).createVersionedBucket "data"
  let m := (m.put "data" "vol/" .empty).2
  let m := (m.put "data" "vol/a" .empty).2
  (m.put "data" "vol/a" .empty).2

def volumeSession : Session Memory where
  store := volumeStore
  client := ⟨{ credentials := ⟨"key", "secret", none⟩, region := "", endpoint := "http://localhost" },
    .fresh⟩

theorem volumeStore_reachable : volumeStore.Reachable :=
  .put _ _ _ (.put _ _ _ (.put _ _ _ (.createVersionedBucket _ .empty)))

end Eviction

end ObjectVolume
