import ObjectVolume.Proofs.Eviction.Call
import ObjectVolume.Proofs.Store.Deletion
/-!
# What an eviction of the store in memory comes to

Whatever order the tasks of a call take their steps in, it comes to one answer and to one contents of
the store: `Call.verdict`, told from the store as it was before the call. The bulk pass deletes what
it takes, if bulk deletions work at all (`Call.bulkGone`); the single pass deletes what is left behind
and listed once more (`Call.singleTaken`), unless its deletion is refused.
-/
namespace ObjectVolume

namespace Store.Memory

/-- What a listing delivers of `refs` while `armed` listings still break off. -/
def delivered (m : Memory) (armed : Nat) (refs : List ObjectRef) : List ObjectRef :=
  if armed = 0 then refs else refs.take m.faults.deliveredBefore

/-- The references whose deletion is refused. -/
def refused (m : Memory) (refs : List ObjectRef) : List ObjectRef :=
  refs.filter fun ref => m.refuses ref.key

/-- How many objects a bulk deletion of references reports as refused. -/
def bulkRefused (m : Memory) (refs : List ObjectRef) : Nat :=
  match m.faults.bulk with
  | .supported => (m.refused refs).length
  | .unsupported => 0
  | .rejectAll => refs.length

/-- The error that a bulk deletion of references reports, if its requests fail. -/
def bulkError? (m : Memory) (refs : List ObjectRef) : Option Error :=
  if m.faults.bulk = .unsupported ∧ refs ≠ [] then some (.backend .bulkDeleteNotImplemented)
  else none

variable {m : Memory} {refs refs' : List ObjectRef} {ref : ObjectRef}

theorem mem_refused : ref ∈ m.refused refs ↔ ref ∈ refs ∧ m.refuses ref.key = true :=
  List.mem_filter

theorem mem_deletable : ref ∈ m.deletable refs ↔ ref ∈ refs ∧ m.refuses ref.key = false := by
  simp [deletable]

theorem bulkDeletable_subset : m.bulkDeletable refs ⊆ m.deletable refs := by
  unfold bulkDeletable
  split
  · exact List.Subset.refl _
  · simp

theorem delivered_sublist (armed : Nat) : (m.delivered armed refs).Sublist refs := by
  unfold delivered
  split
  · exact .refl _
  · exact List.take_sublist _ _

theorem bulkRefused_append (m : Memory) (refs refs' : List ObjectRef) :
    m.bulkRefused (refs ++ refs') = m.bulkRefused refs + m.bulkRefused refs' := by
  unfold bulkRefused refused
  split <;> simp

theorem bulkError?_append (m : Memory) (refs refs' : List ObjectRef) :
    m.bulkError? (refs ++ refs') = (m.bulkError? refs <|> m.bulkError? refs') := by
  unfold bulkError?
  cases refs <;> cases m.faults.bulk <;> simp

theorem countP_bulkFailures (m : Memory) (batch : List ObjectRef) :
    (m.bulkFailures batch).countP Eviction.Bulk.isRefusal = m.bulkRefused batch := by
  unfold bulkFailures bulkRefused refused
  cases m.faults.bulk with
  | supported => simp [Function.comp_def, Eviction.Bulk.isRefusal]
  | unsupported => rfl
  | rejectAll => simp [Function.comp_def, Eviction.Bulk.isRefusal]

theorem requestFailure?_bulkFailures {batch : List ObjectRef} (h : batch ≠ []) :
    Eviction.Bulk.requestFailure? (m.bulkFailures batch) = m.bulkError? batch := by
  unfold bulkFailures bulkError? Eviction.Bulk.requestFailure?
  cases m.faults.bulk with
  | supported => simp [List.findSome?_map, List.findSome?_eq_none_iff]
  | unsupported => simp [h]
  | rejectAll => simp [List.findSome?_map, List.findSome?_eq_none_iff]

theorem ne_nil_of_mem_chunks {α : Type} {n : Nat} (hn : 0 < n) {xs batch : List α}
    (h : batch ∈ chunks n xs) : batch ≠ [] := by
  induction xs using chunks.induct n with
  | case1 xs hx =>
    unfold chunks at h
    simp [hx] at h
  | case2 xs hx ih =>
    unfold chunks at h
    rw [dif_neg hx] at h
    rcases List.mem_cons.1 h with rfl | h
    · intro he
      rcases List.take_eq_nil_iff.1 he with h0 | h0
      · omega
      · exact hx (.inr h0)
    · exact ih h

theorem reports_of_batches {batches : List (List ObjectRef)} (h : ∀ batch ∈ batches, batch ≠ []) :
    (batches.flatMap m.bulkFailures).countP Eviction.Bulk.isRefusal =
        m.bulkRefused batches.flatten ∧
      Eviction.Bulk.requestFailure? (batches.flatMap m.bulkFailures) =
        m.bulkError? batches.flatten := by
  induction batches with
  | nil =>
    unfold bulkRefused bulkError?
    cases m.faults.bulk <;> exact ⟨rfl, rfl⟩
  | cons batch rest ih =>
    obtain ⟨hcount, herror⟩ := ih fun b hb => h b (List.mem_cons_of_mem _ hb)
    have hne := h batch List.mem_cons_self
    constructor
    · rw [List.flatMap_cons, List.countP_append, countP_bulkFailures, hcount, List.flatten_cons,
        bulkRefused_append]
    · rw [List.flatten_cons, bulkError?_append, ← herror, ← requestFailure?_bulkFailures hne]
      simp only [List.flatMap_cons, Eviction.Bulk.requestFailure?, List.findSome?_append,
        Option.orElse_eq_orElse, Option.orElse_eq_or]

/-- **Reports of a bulk deletion.** What is refused and which request fails does not depend on how the
references are split into requests. -/
theorem Lost.reports {m₀ : Memory} {name : String} {b : Bucket} {gone : List ObjectRef} {armed : Nat}
    (h : Lost m₀ name gone armed m) (hs : m₀.Sound) (hb : m₀.buckets.find? name = some b)
    (hr : ∀ ref ∈ refs, b.Names ref) :
    (m.takeBatch name refs).1.countP Eviction.Bulk.isRefusal = m₀.bulkRefused refs ∧
      Eviction.Bulk.requestFailure? (m.takeBatch name refs).1 = m₀.bulkError? refs := by
  have hne : ∀ batch ∈ chunks batchSize refs, batch ≠ [] := fun batch hm =>
    ne_nil_of_mem_chunks (by decide) hm
  have hflat : (chunks batchSize refs).flatten = refs := flatten_chunks (by decide) refs
  rw [(h.takeBatch hs hb hr).1, ← hflat, hflat]
  have := reports_of_batches (m := m₀) hne
  rwa [hflat] at this

end Store.Memory

namespace Eviction.Call

open Store (Memory KeyMap Bucket Event)

variable (c : Call) (m : Memory)

/-! ## What is listed and what is deleted -/

/-- References to everything in the scope. -/
def listed : List ObjectRef :=
  match m.buckets.find? c.bucket with
  | none => []
  | some b => b.refs c.scope

/-- What is to be deleted by the passes. -/
def doomed : List ObjectRef := toDelete c.marker (c.listed m)

/-- The versions of the marker. -/
def markers : List ObjectRef := heldBack c.marker (c.listed m)

/-- The error with which a listing breaks off while `armed` listings still do. -/
def interruption (armed : Nat) : Option Error :=
  match m.buckets.find? c.bucket with
  | none => some (.backend (.noSuchBucket c.bucket))
  | some _ => if armed = 0 then none else some (.backend .listingInterrupted)

/-- The events of a listing of what `gone` has left, while `armed` listings still break off. -/
def events (gone : List ObjectRef) (armed : Nat) : List Event :=
  match m.buckets.find? c.bucket with
  | none => [.failed (.backend (.noSuchBucket c.bucket))]
  | some b => Memory.events (m.breaksAt armed) 0 ((b.without gone).refs c.scope)

/-- What the bulk pass takes from its listing. -/
def bulkTaken : List ObjectRef :=
  toDelete c.marker (m.delivered m.faults.failingListings (c.listed m))

/-- What the bulk pass deletes. -/
def bulkGone : List ObjectRef := m.bulkDeletable (c.bulkTaken m)

/-- What the bulk pass leaves in the scope. -/
def leftBehind : List ObjectRef :=
  (c.listed m).filter fun ref => decide (ref ∉ c.bulkGone m)

/-- What the single pass takes from its listing. -/
def singleTaken : List ObjectRef :=
  toDelete c.marker (m.delivered (m.faults.failingListings - 1) (c.leftBehind m))

/-! ## The verdict -/

/-- The error of the bulk pass, where it fails. -/
def bulkFailure : Error :=
  match c.interruption m m.faults.failingListings, m.bulkError? (c.doomed m) with
  | some e, _ => e
  | none, some e => e
  | none, none => .bulkDelete c.bucket c.scope (m.bulkRefused (c.doomed m))

/-- What comes of a call whose last pass was clean. -/
def lastVerdict : Outcome Unit × KeyMap Bucket :=
  match c.target, m.refused (c.markers m) with
  | .bucket, _ => (.done (), m.buckets.erase c.bucket)
  | .below _, [] => (.done (), (m.without c.bucket (c.listed m)).buckets)
  | .below _, ref :: _ =>
    (.failed (.backend (.accessDenied ref.key)), (m.without c.bucket (c.doomed m)).buckets)

/-- The answer of a call that is not cancelled, and the buckets that it leaves. -/
def verdict : Outcome Unit × KeyMap Bucket :=
  match c.interruption m (m.faults.failingListings - 1) with
  | some e =>
    (.failed (.eviction (c.bulkFailure m) e),
      (m.without c.bucket (c.bulkGone m ++ m.deletable (c.singleTaken m))).buckets)
  | none =>
    if m.refused (c.doomed m) = [] then c.lastVerdict m
    else
      (.failed (.eviction (c.bulkFailure m)
          (.partialEviction c.bucket c.scope (m.refused (c.doomed m)).length
            (c.singleTaken m).length)),
        (m.without c.bucket (m.deletable (c.doomed m))).buckets)

variable {c m} {gone : List ObjectRef} {ref : ObjectRef}

/-! ## Listings -/

theorem found_events (gone : List ObjectRef) (armed : Nat) :
    found (c.events m gone armed) =
      m.delivered armed ((c.listed m).filter fun ref => decide (ref ∉ gone)) := by
  unfold events listed
  cases m.buckets.find? c.bucket with
  | none => simp [found, Memory.delivered]
  | some b =>
    simp only [Bucket.refs_without, Memory.breaksAt, Memory.delivered]
    cases armed with
    | zero => exact found_events_none 0 _
    | succ n => exact found_events_some (Nat.zero_le _) _

theorem listingEnd_events (gone : List ObjectRef) (armed : Nat) :
    listingEnd (c.events m gone armed) =
      match c.interruption m armed with
      | some e => .failed e
      | none => .whole := by
  unfold events interruption
  cases m.buckets.find? c.bucket with
  | none => rfl
  | some b =>
    simp only [Eviction.listingEnd_events, Memory.breaksAt]
    cases armed <;> rfl

theorem calm_events (gone : List ObjectRef) (armed : Nat) : Calm (c.events m gone armed) := by
  unfold events
  split
  · simp [Calm]
  · exact Eviction.calm_events _ _ _

/-- While no listing breaks off, the bucket exists and everything is delivered. -/
theorem interruption_eq_none {armed : Nat} (h : c.interruption m armed = none) :
    armed = 0 ∧ ∃ b, m.buckets.find? c.bucket = some b := by
  unfold interruption at h
  cases hb : m.buckets.find? c.bucket with
  | none => simp [hb] at h
  | some b => exact ⟨by simpa [hb] using h, b, rfl⟩

theorem interruption_eq_none_iff {b : Bucket} (hb : m.buckets.find? c.bucket = some b) {armed : Nat} :
    c.interruption m armed = none ↔ armed = 0 := by
  simp [interruption, hb]

theorem listed_eq {b : Bucket} (hb : m.buckets.find? c.bucket = some b) :
    c.listed m = b.refs c.scope := by
  simp [listed, hb]

theorem exists_of_mem_listed (h : ref ∈ c.listed m) :
    ∃ b, m.buckets.find? c.bucket = some b ∧ ref ∈ b.refs c.scope := by
  unfold listed at h
  cases hb : m.buckets.find? c.bucket with
  | none => simp [hb] at h
  | some b => exact ⟨b, rfl, by simpa [hb] using h⟩

/-! ## What is taken is what is doomed -/

theorem toDelete_found_bulk :
    toDelete c.marker (found (c.events m [] m.faults.failingListings)) = c.bulkTaken m := by
  rw [found_events, List.filter_eq_self.2 (by simp), bulkTaken]

theorem toDelete_found_single :
    toDelete c.marker (found (c.events m (c.bulkGone m) (m.faults.failingListings - 1))) =
      c.singleTaken m := by
  rw [found_events, singleTaken, leftBehind]

theorem mem_doomed : ref ∈ c.doomed m ↔ ref ∈ c.listed m ∧ c.marker ≠ some ref.key :=
  mem_toDelete

theorem mem_markers : ref ∈ c.markers m ↔ ref ∈ c.listed m ∧ c.marker = some ref.key :=
  mem_heldBack

theorem bulkTaken_subset : c.bulkTaken m ⊆ c.doomed m := fun _ h =>
  have ⟨hmem, hkey⟩ := mem_toDelete.1 h
  mem_doomed.2 ⟨(Memory.delivered_sublist _).subset hmem, hkey⟩

theorem bulkGone_subset : c.bulkGone m ⊆ m.deletable (c.doomed m) := fun _ h =>
  have ⟨hmem, hkey⟩ := Memory.mem_deletable.1 (Memory.bulkDeletable_subset h)
  Memory.mem_deletable.2 ⟨bulkTaken_subset hmem, hkey⟩

theorem singleTaken_subset : c.singleTaken m ⊆ c.doomed m := fun _ h =>
  have ⟨hmem, hkey⟩ := mem_toDelete.1 h
  mem_doomed.2 ⟨(List.mem_filter.1 ((Memory.delivered_sublist _).subset hmem)).1, hkey⟩

/-- Where no listing breaks off, the single pass takes everything doomed that is left. -/
theorem singleTaken_eq (h : c.interruption m (m.faults.failingListings - 1) = none) :
    c.singleTaken m = (c.doomed m).filter fun ref => decide (ref ∉ c.bulkGone m) := by
  obtain ⟨harmed, -⟩ := interruption_eq_none h
  simp only [singleTaken, Memory.delivered, harmed, if_true, leftBehind, doomed, toDelete,
    List.filter_filter]
  exact List.filter_congr fun _ _ => Bool.and_comm _ _

/-- The single pass meets every refusal: the bulk pass has deleted none of these. -/
theorem refused_singleTaken (h : c.interruption m (m.faults.failingListings - 1) = none) :
    m.refused (c.singleTaken m) = m.refused (c.doomed m) := by
  rw [singleTaken_eq h, Memory.refused, Memory.refused, List.filter_filter]
  apply List.filter_congr
  intro ref _
  cases hr : m.refuses ref.key with
  | false => rfl
  | true =>
    have hleft : ref ∉ c.bulkGone m := fun hm => by
      have := (Memory.mem_deletable.1 (bulkGone_subset hm)).2
      simp [hr] at this
    simp [hleft]

end Eviction.Call

end ObjectVolume
