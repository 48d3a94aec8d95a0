import ObjectVolume.Proofs.Eviction.Listing
import ObjectVolume.Proofs.Store.Deletion
import ObjectVolume.Proofs.Store.Numbering
/-!
# Deletions in any order

A store in memory is `Orderly` whatever calls it has received: a bucket that keeps one version has
exactly one for each key, and versions that are kept beside others are told apart by their ids. A
reference that is listed therefore refers to one version and to nothing else, so that its deletion is
no one else's business. References may be deleted in any order, one by one or in bulk: the same is left
and the same is refused (`Lost.performAll`).
-/
namespace ObjectVolume.Store

open Eviction (found found_events_none found_events_some)

/-! ## What every store keeps to -/

/-- What holds of the versions in a store. -/
structure Memory.Orderly (m : Memory) : Prop where
  /-- Every key has versions. -/
  kept : ∀ name b, m.buckets.find? name = some b → ∀ key, b.objects.find? key ≠ some []
  /-- Where one version is kept, there is one, and it needs no id. -/
  single : ∀ name b, m.buckets.find? name = some b → b.versioned = false →
    ∀ key vs, b.objects.find? key = some vs → ∃ data, vs = [⟨none, some data⟩]
  /-- Where all versions are kept, each has an id. -/
  identified : ∀ name b, m.buckets.find? name = some b → b.versioned = true →
    ∀ key vs, b.objects.find? key = some vs → ∀ v ∈ vs, v.id.isSome
  /-- No id is used twice, in whatever buckets. -/
  distinct : m.ids.Nodup

/-- Versions without ids of which no two have the same are one at most. -/
theorem SoundVersions.eq_single {next : Nat} {vs : List Version} (h : SoundVersions next false vs)
    (hne : vs ≠ []) : ∃ data, vs = [⟨none, some data⟩] := by
  cases vs with
  | nil => exact absurd rfl hne
  | cons v vs =>
    obtain ⟨hid, hdata⟩ := h.plain rfl v List.mem_cons_self
    have hrest : vs = [] := by
      rw [List.eq_nil_iff_forall_not_mem]
      intro w hw
      have hnodup := h.distinct
      rw [List.map_cons, List.nodup_cons] at hnodup
      apply hnodup.1
      rw [hid, ← (h.plain rfl w (List.mem_cons_of_mem v hw)).1]
      exact List.mem_map_of_mem hw
    obtain ⟨id, data⟩ := v
    obtain ⟨d, hd⟩ := Option.isSome_iff_exists.1 hdata
    simp only at hid hd
    exact ⟨d, by rw [hrest, hid, hd]⟩

namespace Memory

variable {m m₀ : Memory} {name : String} {b : Bucket} {gone : List ObjectRef} {armed : Nat}

theorem orderly_of_sound (hs : m.Sound) (hn : m.Numbered) : m.Orderly := by
  refine ⟨fun name b hb => (hs name b hb).kept, ?_, ?_, hn.distinct⟩
  · intro name b hb hv key vs hvs
    have h := (hs name b hb).versions key
    rw [hv, Bucket.versionsOf_eq_of_find? hvs] at h
    exact h.eq_single fun hnil => (hs name b hb).kept key (hnil ▸ hvs)
  · intro name b hb hv key vs hvs v hm
    rw [← Bucket.versionsOf_eq_of_find? hvs] at hm
    obtain ⟨n, -, hid⟩ := ((hs name b hb).versions key).issued hv v hm
    simp [hid]

/-! ## Listings -/

/-- References to everything in a bucket that starts with `scope`. -/
def refs (m : Memory) (name scope : String) : List ObjectRef :=
  match m.buckets.find? name with
  | none => []
  | some b => b.refs scope

theorem refs_eq (hb : m.buckets.find? name = some b) (scope : String) :
    m.refs name scope = b.refs scope := by
  simp [refs, hb]

/-- A listing finds everything, or what comes before it breaks off. -/
theorem found_list (m : Memory) (name scope : String) :
    found (m.list name scope).1 =
      if m.faults.failingListings = 0 then m.refs name scope
      else (m.refs name scope).take m.faults.deliveredBefore := by
  simp only [list, takeListingFault_eq, refs, breaksAt]
  cases m.buckets.find? name with
  | none => simp [found]
  | some b =>
    by_cases h : m.faults.failingListings = 0
    · simp only [h, if_true, found_events_none]
    · simp only [h, if_false, found_events_some (Nat.zero_le _), Nat.sub_zero]

theorem Sound.nodup_refs (h : m.Sound) (name scope : String) : (m.refs name scope).Nodup := by
  unfold refs
  cases hb : m.buckets.find? name with
  | none => exact .nil
  | some b => exact (h name b hb).nodup_refs scope

theorem Sound.nodup_found_list (h : m.Sound) (name scope : String) :
    (found (m.list name scope).1).Nodup := by
  rw [found_list]
  split
  · exact h.nodup_refs name scope
  · exact (h.nodup_refs name scope).sublist (List.take_sublist _ _)

end Memory

/-! ## Schedules -/

/-- What a call that deletes does in one go. -/
inductive Deletion where
  /-- A single removal starts. -/
  | start (ref : ObjectRef)
  /-- A single removal ends. -/
  | finish (ref : ObjectRef)
  /-- A bulk deletion takes references. -/
  | request (refs : List ObjectRef)

namespace Deletion

/-- The references that are deleted by now. -/
def refs : Deletion → List ObjectRef
  | start _ => []
  | finish ref => [ref]
  | request refs => refs

def isRequest : Deletion → Bool
  | request _ => true
  | _ => false

/-- What a single removal reports of its reference. -/
def report (ref : ObjectRef) : Reply Unit → List DeleteFailure
  | .failed e => [.object ref e.message]
  | _ => []

/-- Deletes from a bucket, and gives what could not be deleted. -/
def perform (name : String) (m : Memory) : Deletion → List DeleteFailure × Memory
  | start ref => ([], memory.startRemoval name ref m)
  | finish ref =>
    let (reply, m) := memory.endRemoval name ref m
    (report ref reply, m)
  | request refs => memory.takeBatch ⟨name, true⟩ refs m

def performAll (name : String) (m : Memory) : List Deletion → List DeleteFailure × Memory
  | [] => ([], m)
  | d :: ds =>
    let (failures, m) := d.perform name m
    let (later, m) := performAll name m ds
    (failures ++ later, m)

end Deletion

namespace Memory

variable {m m₀ : Memory} {name : String} {b : Bucket} {gone refs : List ObjectRef} {armed : Nat}

/-- The failures of the references whose deletion is refused. -/
def refusals (m : Memory) (refs : List ObjectRef) : List DeleteFailure :=
  (refs.filter fun ref => m.refuses ref.key).map fun ref =>
    .object ref (Error.backend (.accessDenied ref.key)).message

theorem refusals_append (m : Memory) (r s : List ObjectRef) :
    m.refusals (r ++ s) = m.refusals r ++ m.refusals s := by
  simp [refusals]

theorem mem_refusals {failure : DeleteFailure} :
    failure ∈ m.refusals refs ↔ ∃ ref ∈ refs, m.refuses ref.key = true ∧
      .object ref (Error.backend (.accessDenied ref.key)).message = failure := by
  simp [refusals, and_assoc]

/-- Bulk deletions that work report each refusal once, however they are split into requests. -/
theorem bulkFailures_flatten (hb : m.faults.bulk = .supported) (batches : List (List ObjectRef)) :
    batches.flatMap m.bulkFailures = m.refusals batches.flatten := by
  have hone (batch : List ObjectRef) : m.bulkFailures batch = m.refusals batch := by
    simp [bulkFailures, hb, refusals]
  induction batches with
  | nil => rfl
  | cons batch rest ih => rw [List.flatMap_cons, ih, hone, List.flatten_cons, refusals_append]

/-- **One deletion** of a schedule takes away what is not refused, and reports what is. -/
theorem Lost.perform (h : Lost m₀ name gone armed m) (hs : m₀.Sound)
    (hb : m₀.buckets.find? name = some b) {d : Deletion} (hd : ∀ ref ∈ d.refs, b.Names ref)
    (bulk : d.isRequest = true → m₀.faults.bulk = .supported) :
    (d.perform name m).1 = m₀.refusals d.refs ∧
      Lost m₀ name (gone ++ m₀.deletable d.refs) armed (d.perform name m).2 := by
  cases d with
  | start ref =>
    refine ⟨rfl, ?_⟩
    have hstart : Lost m₀ name gone armed (Deletion.perform name m (.start ref)).2 := h.startRemoval
    simpa [Deletion.refs, deletable] using hstart
  | finish ref =>
    obtain ⟨hreply, hlost⟩ := h.endRemoval hs hb (hd ref List.mem_cons_self)
    refine ⟨?_, hlost⟩
    simp only [Deletion.perform, hreply]
    cases hr : m₀.refuses ref.key <;> simp [Deletion.report, Deletion.refs, refusals, hr]
  | request refs =>
    have hsupported := bulk rfl
    obtain ⟨hfailures, hlost⟩ := h.takeBatch hs hb hd
    refine ⟨?_, ?_⟩
    · rw [bulkFailures_flatten hsupported, flatten_chunks (by decide)] at hfailures
      exact hfailures
    · rw [bulkDeletable, if_pos hsupported] at hlost
      exact hlost

/-- **A whole schedule** does the same, whatever the order of its deletions. -/
theorem Lost.performAll {ds : List Deletion} (h : Lost m₀ name gone armed m) (hs : m₀.Sound)
    (hb : m₀.buckets.find? name = some b) (hd : ∀ d ∈ ds, ∀ ref ∈ d.refs, b.Names ref)
    (bulk : ∀ d ∈ ds, d.isRequest = true → m₀.faults.bulk = .supported) :
    (Deletion.performAll name m ds).1 = m₀.refusals (ds.flatMap Deletion.refs) ∧
      Lost m₀ name (gone ++ m₀.deletable (ds.flatMap Deletion.refs)) armed
        (Deletion.performAll name m ds).2 := by
  induction ds generalizing m gone with
  | nil => simpa [Deletion.performAll, refusals, deletable] using h
  | cons d ds ih =>
    obtain ⟨hfirst, hlost⟩ := h.perform hs hb (hd d List.mem_cons_self) (bulk d List.mem_cons_self)
    obtain ⟨hlater, hrest⟩ := ih hlost (fun e he => hd e (List.mem_cons_of_mem d he))
      fun e he => bulk e (List.mem_cons_of_mem d he)
    rw [List.append_assoc, ← deletable_append, ← List.flatMap_cons] at hrest
    refine ⟨?_, hrest⟩
    rw [List.flatMap_cons, refusals_append, ← hfirst, ← hlater]
    rfl

/-- A store has lost one version, and nothing else has changed but its counters. -/
structure LostOnly (m : Memory) (name : String) (ref : ObjectRef) (m' : Memory) : Prop where
  listing : ∀ scope, m'.refs name scope = (m.refs name scope).erase ref
  bucket : ∀ b, m.buckets.find? name = some b → ∃ b', m'.buckets.find? name = some b' ∧
    b'.region = b.region ∧ b'.versioned = b.versioned ∧
    ∀ key, b'.versionsOf key = (b.versionsOf key).filter fun v => decide (⟨key, v.id⟩ ≠ ref)
  others : ∀ other, other ≠ name → m'.buckets.find? other = m.buckets.find? other
  unchanged : m'.faults = m.faults ∧ m'.nextVersion = m.nextVersion

/-- **A single removal** of a version whose deletion is not refused, from its start to its end. -/
theorem lostOnly_removal (hs : m.Sound) (hb : m.buckets.find? name = some b) {ref : ObjectRef}
    (hr : b.Names ref) (hf : m.refuses ref.key = false) :
    (memory.endRemoval name ref (memory.startRemoval name ref m)).1 = .done () ∧
      LostOnly m name ref (memory.endRemoval name ref (memory.startRemoval name ref m)).2 := by
  have hstart : Lost m name [] m.faults.failingListings (memory.startRemoval name ref m) :=
    (Lost.refl hs name).startRemoval
  obtain ⟨hreply, hlost⟩ := hstart.endRemoval hs hb hr
  have hone : [] ++ m.deletable [ref] = [ref] := by simp [deletable, hf]
  rw [hone] at hlost
  rw [hf, if_neg (by simp)] at hreply
  refine ⟨hreply, ?_, fun c hc => ?_, fun other hne => ?_, hlost.faults, ?_⟩
  · intro scope
    rw [refs_eq (hlost.find? hb), refs_eq hb, Bucket.refs_without,
      ((hs name b hb).nodup_refs scope).erase_eq_filter]
    exact List.filter_congr fun r _ => by by_cases hr : r = ref <;> simp [hr]
  · rw [hb, Option.some.injEq] at hc
    subst hc
    refine ⟨b.without [ref], hlost.find? hb, rfl, rfl, fun key => ?_⟩
    rw [Bucket.versionsOf_without, Bucket.leftOf]
    exact List.filter_congr fun v _ => by simp
  · rw [hlost.buckets, find?_without_of_ne (Ne.symm hne)]
  · -- only what marks an object as deleted needs a number
    have hdelete := delete_eq (m := m.startRemoval) (hs name b hb) hb hr
    have hcontinues : m.startRemoval.refuses ref.key = false := hf
    rw [hcontinues, if_neg (by simp)] at hdelete
    simp only [memory, endRemoval, hdelete]
    rfl

/-- Listed references are as their bucket names them. -/
theorem Sound.names_of_mem_refs (hs : m.Sound) (hb : m.buckets.find? name = some b) {scope : String}
    {ref : ObjectRef} (hm : ref ∈ m.refs name scope) : b.Names ref := by
  rw [refs_eq hb] at hm
  exact (hs name b hb).names_of_mem_refs hm

/-- A schedule that deletes listed references leaves the store without those whose deletion is not
refused. -/
theorem Sound.performAll (hs : m.Sound) (hb : m.buckets.find? name = some b) {ds : List Deletion}
    (listed : ds.flatMap Deletion.refs ⊆ m.refs name "")
    (bulk : ∀ d ∈ ds, d.isRequest = true → m.faults.bulk = .supported) :
    (Deletion.performAll name m ds).1 = m.refusals (ds.flatMap Deletion.refs) ∧
      Lost m name (m.deletable (ds.flatMap Deletion.refs)) m.faults.failingListings
        (Deletion.performAll name m ds).2 := by
  refine (Lost.refl hs name).performAll hs hb (fun d hd ref hm => ?_) bulk
  exact hs.names_of_mem_refs hb (listed (List.mem_flatMap.2 ⟨d, hd, hm⟩))

/-- **Any order.** Every store is orderly, and a listing finds nothing twice. A listed reference whose
deletion is not refused takes away what it refers to and nothing else. Whatever schedules delete the
same references of a listing, one by one or in bulk, leave the same and report the same failures. -/
theorem Reachable.orderly (h : m.Reachable) :
    m.Orderly ∧ ∀ name, (found (m.list name "").1).Nodup ∧
      (m.faults.failingListings = 0 → found (m.list name "").1 = m.refs name "") ∧
      ∀ b, m.buckets.find? name = some b →
        (∀ ref ∈ m.refs name "", m.refuses ref.key = false →
          (memory.endRemoval name ref (memory.startRemoval name ref m)).1 = .done () ∧
          LostOnly m name ref (memory.endRemoval name ref (memory.startRemoval name ref m)).2) ∧
        ∀ ds : List Deletion, ds.flatMap Deletion.refs ⊆ m.refs name "" →
          (∀ d ∈ ds, d.isRequest = true → m.faults.bulk = .supported) →
          (Deletion.performAll name m ds).1 = m.refusals (ds.flatMap Deletion.refs) ∧
          ∀ ds' : List Deletion,
            (∀ ref, ref ∈ ds'.flatMap Deletion.refs ↔ ref ∈ ds.flatMap Deletion.refs) →
            (∀ d ∈ ds', d.isRequest = true → m.faults.bulk = .supported) →
            (Deletion.performAll name m ds').2.buckets =
                (Deletion.performAll name m ds).2.buckets ∧
              ∀ failure, failure ∈ (Deletion.performAll name m ds').1 ↔
                failure ∈ (Deletion.performAll name m ds).1 := by
  have hs := h.sound
  refine ⟨orderly_of_sound hs h.numbered, fun name => ⟨hs.nodup_found_list name "", ?_, ?_⟩⟩
  · intro harmed
    rw [found_list, if_pos harmed]
  intro b hb
  refine ⟨fun ref hm hf => lostOnly_removal hs hb (hs.names_of_mem_refs hb hm) hf, ?_⟩
  intro ds listed bulk
  obtain ⟨hfailures, hlost⟩ := hs.performAll hb listed bulk
  refine ⟨hfailures, fun ds' same bulk' => ?_⟩
  obtain ⟨hfailures', hlost'⟩ := hs.performAll hb (fun ref hm => listed ((same ref).1 hm)) bulk'
  have hgone : Lost m name (m.deletable (ds.flatMap Deletion.refs)) m.faults.failingListings
      (Deletion.performAll name m ds').2 := by
    refine hlost'.congr hs ?_
    intro b _ key v _
    simp only [deletable, List.mem_filter, same]
  refine ⟨hgone.buckets.trans hlost.buckets.symm, fun failure => ?_⟩
  rw [hfailures, hfailures', mem_refusals, mem_refusals]
  simp only [same]

/-- A version and a mark of its deletion in one bucket, and two objects in another; the deletion of
one of these is refused. -/
def mixedStore : Memory :=
  let m := ({} : Memory).createVersionedBucket "all"
  let m := (m.put "all" "k" .empty).2
  let m := (m.startRemoval.endRemoval "all" ⟨"k", none⟩).2
  { m.seed "one" ["a", "b"] with faults := { failingKeys := ["b"] } }

theorem mixedStore_reachable : mixedStore.Reachable :=
  .arm _ (.seed _ _ (.endRemoval _ _ (.startRemoval (.put _ _ _ (.createVersionedBucket _ .empty)))))

theorem mixedStore_orderly : mixedStore.Orderly ∧
    (Deletion.performAll "one" mixedStore
        [.start ⟨"b", none⟩, .start ⟨"a", none⟩, .finish ⟨"a", none⟩, .finish ⟨"b", none⟩]).2.buckets =
      (Deletion.performAll "one" mixedStore [.request [⟨"a", none⟩, ⟨"b", none⟩]]).2.buckets := by
  obtain ⟨horderly, hname⟩ := mixedStore_reachable.orderly
  have hbucket : (mixedStore.buckets.find? "one").isSome = true := by decide +kernel
  have hlisted : ∀ ref ∈ [⟨"a", none⟩, ⟨"b", none⟩], ref ∈ mixedStore.refs "one" "" := by
    decide +kernel
  obtain ⟨b, hb⟩ := Option.isSome_iff_exists.1 hbucket
  refine ⟨horderly, ?_⟩
  have hany := ((hname "one").2.2 b hb).2
  exact (((hany [.request [⟨"a", none⟩, ⟨"b", none⟩]] hlisted fun _ _ _ => rfl).2 _
    (by simp [Deletion.refs]) (fun _ _ _ => rfl)).1)

end Memory

end ObjectVolume.Store
