import ObjectVolume.Proofs.Store.Reachable
/-!
# Deleting listed versions

`Memory.without` is a store without given versions, and nothing else changed. Deletions of listed
references, one by one or in bulk, lead from a store to one of these (`Lost.delete`,
`Lost.takeBatch`), so that what is left of a store can be told from the references alone.
-/
namespace ObjectVolume.Store

namespace Bucket

/-- The versions of a key that `gone` does not refer to. -/
def leftOf (gone : List ObjectRef) (key : String) (vs : List Version) : List Version :=
  vs.filter fun v => decide (⟨key, v.id⟩ ∉ gone)

/-- The bucket without the versions that `gone` refers to. -/
def without (b : Bucket) (gone : List ObjectRef) : Bucket :=
  { b with objects := b.objects.restrict fun key vs => entry (leftOf gone key vs) }

/-- A reference names versions as the bucket keeps them: with an id, if it keeps all. -/
def Names (b : Bucket) (ref : ObjectRef) : Prop :=
  b.versioned = true → ref.version.isSome

variable {b : Bucket} {next : Nat} {gone : List ObjectRef}

theorem leftOf_sublist (gone : List ObjectRef) (key : String) (vs : List Version) :
    (leftOf gone key vs).Sublist vs :=
  List.filter_sublist

theorem leftOf_leftOf (gone gone' : List ObjectRef) (key : String) (vs : List Version) :
    leftOf gone' key (leftOf gone key vs) = leftOf (gone ++ gone') key vs := by
  simp only [leftOf, List.filter_filter, List.mem_append, not_or, Bool.decide_and]
  exact List.filter_congr fun v _ => Bool.and_comm _ _

theorem leftOf_congr {gone gone' : List ObjectRef} {key : String} {vs : List Version}
    (h : ∀ v ∈ vs, (⟨key, v.id⟩ ∈ gone ↔ ⟨key, v.id⟩ ∈ gone')) :
    leftOf gone key vs = leftOf gone' key vs :=
  List.filter_congr fun v hv => by rw [decide_eq_decide.2 (not_congr (h v hv))]

/-- Nothing goes of a key that `gone` does not name. -/
theorem leftOf_eq_self {key : String} {vs : List Version} (h : ∀ ref ∈ gone, ref.key ≠ key) :
    leftOf gone key vs = vs :=
  List.filter_eq_self.2 fun _ _ => decide_eq_true fun hm => h _ hm rfl

@[simp]
theorem versionsOf_without (b : Bucket) (gone : List ObjectRef) (key : String) :
    (b.without gone).versionsOf key = leftOf gone key (b.versionsOf key) := by
  simp only [versionsOf, without, KeyMap.find?_restrict]
  cases b.objects.find? key with
  | none => rfl
  | some vs => simp

theorem Sound.without (h : b.Sound next) (gone : List ObjectRef) : (b.without gone).Sound next := by
  refine ⟨fun key hf => ?_, fun key => ?_⟩
  · obtain ⟨vs, -, hvs⟩ := Option.bind_eq_some_iff.1 ((KeyMap.find?_restrict _ _ _).symm.trans hf)
    exact entry_ne_some_nil _ hvs
  · rw [versionsOf_without]
    exact (h.versions key).sublist (leftOf_sublist _ _ _)

/-- Sound buckets that keep the same versions are equal. -/
theorem Sound.ext {b c : Bucket} {next' : Nat} (hb : b.Sound next) (hc : c.Sound next')
    (region : b.region = c.region) (versioned : b.versioned = c.versioned)
    (versions : ∀ key, b.versionsOf key = c.versionsOf key) : b = c := by
  have hobj : b.objects = c.objects := KeyMap.ext_find? fun key => by
    rw [hb.find?_eq, hc.find?_eq, versions]
  cases b; cases c
  simp_all

theorem Sound.without_congr (h : b.Sound next) {gone gone' : List ObjectRef}
    (hg : ∀ key, ∀ v ∈ b.versionsOf key, (⟨key, v.id⟩ ∈ gone ↔ ⟨key, v.id⟩ ∈ gone')) :
    b.without gone = b.without gone' := by
  refine (h.without gone).ext (h.without gone') rfl rfl ?_
  intro key
  rw [versionsOf_without, versionsOf_without, leftOf_congr (hg key)]

theorem Sound.without_nil (h : b.Sound next) : b.without [] = b :=
  (h.without []).ext h rfl rfl fun key => by simp [leftOf]

theorem Sound.without_without (h : b.Sound next) (gone gone' : List ObjectRef) :
    (b.without gone).without gone' = b.without (gone ++ gone') := by
  refine ((h.without gone).without gone').ext (h.without _) rfl rfl ?_
  intro key
  rw [versionsOf_without, versionsOf_without, versionsOf_without, leftOf_leftOf]

/-- Versions put in place of those of one key change nothing else. -/
theorem Sound.setVersions_leftOf (h : b.Sound next) (ref : ObjectRef) :
    b.setVersions ref.key (leftOf [ref] ref.key (b.versionsOf ref.key)) = b.without [ref] := by
  have hleft := (h.versions ref.key).sublist (leftOf_sublist [ref] ref.key _)
  refine (h.setVersions (Nat.le_refl next) ref.key hleft).ext (h.without [ref]) rfl rfl ?_
  intro key
  rw [versionsOf_setVersions, versionsOf_without]
  split
  next hk => rw [hk]
  next hk => rw [leftOf_eq_self (by simpa using Ne.symm hk)]

theorem Sound.setVersions_self (h : b.Sound next) (key : String) :
    b.setVersions key (b.versionsOf key) = b := by
  refine (h.setVersions (Nat.le_refl next) key (h.versions key)).ext h rfl rfl ?_
  intro k
  rw [versionsOf_setVersions]
  split
  next hk => rw [hk]
  next => rfl

/-! ## Listed references -/

theorem mem_refs {scope : String} {ref : ObjectRef} :
    ref ∈ b.refs scope ↔
      scope.toList <+: ref.key.toList ∧ ∃ v ∈ b.versionsOf ref.key, v.id = ref.version := by
  unfold refs
  rw [KeyMap.withPrefix_eq_filter]
  simp only [List.mem_flatMap, List.mem_filter, KeyMap.startsWith_iff, List.mem_map]
  constructor
  · rintro ⟨⟨key, vs⟩, ⟨he, hp⟩, v, hv, rfl⟩
    refine ⟨hp, v, ?_, rfl⟩
    rw [versionsOf_eq_of_find? (KeyMap.find?_eq_some_iff.2 he)]
    exact hv
  · rintro ⟨hp, v, hv, hid⟩
    cases hf : b.objects.find? ref.key with
    | none => simp [versionsOf, hf] at hv
    | some vs =>
      refine ⟨(ref.key, vs), ⟨KeyMap.find?_eq_some_iff.1 hf, hp⟩, v, ?_, by simp [hid]⟩
      simpa [versionsOf, hf] using hv

theorem Sound.names_of_mem_refs (h : b.Sound next) {scope : String} {ref : ObjectRef}
    (hr : ref ∈ b.refs scope) : b.Names ref := by
  obtain ⟨-, v, hv, hid⟩ := mem_refs.1 hr
  intro hver
  obtain ⟨n, -, hn⟩ := (h.versions ref.key).issued hver v hv
  simp [← hid, hn]

/-- No version is listed twice. -/
theorem Sound.nodup_refs (h : b.Sound next) (scope : String) : (b.refs scope).Nodup := by
  unfold refs
  rw [KeyMap.withPrefix_eq_filter]
  refine List.pairwise_flatMap.2 ⟨fun e he => ?_, ?_⟩
  · have hvs := versionsOf_eq_of_find? (KeyMap.find?_eq_some_iff.2 (List.mem_filter.1 he).1)
    have hids := (h.versions e.1).distinct
    rw [hvs] at hids
    rw [List.pairwise_map]
    exact (List.pairwise_map.1 hids).imp fun hne heq => hne (congrArg ObjectRef.version heq)
  · refine (b.objects.sorted.sublist List.filter_sublist).imp ?_
    intro e e' hlt ref hr ref' hr' heq
    obtain ⟨v, -, rfl⟩ := List.mem_map.1 hr
    obtain ⟨v', -, rfl⟩ := List.mem_map.1 hr'
    have hkey : e.1 = e'.1 := congrArg ObjectRef.key heq
    rw [hkey] at hlt
    exact String.lt_irrefl _ hlt

theorem refs_without (b : Bucket) (gone : List ObjectRef) (scope : String) :
    (b.without gone).refs scope = (b.refs scope).filter fun ref => decide (ref ∉ gone) := by
  unfold refs
  rw [KeyMap.withPrefix_eq_filter, KeyMap.withPrefix_eq_filter]
  simp only [without, KeyMap.restrict]
  induction b.objects.entries with
  | nil => rfl
  | cons e r ih =>
    obtain ⟨key, vs⟩ := e
    have hmap : (vs.map fun v => (⟨key, v.id⟩ : ObjectRef)).filter (fun ref => decide (ref ∉ gone)) =
        (leftOf gone key vs).map fun v => ⟨key, v.id⟩ := by rw [List.filter_map]; rfl
    have hsw : KeyMap.startsWith scope (key, leftOf gone key vs) = KeyMap.startsWith scope (key, vs) :=
      rfl
    rw [List.filterMap_cons]
    by_cases hp : KeyMap.startsWith scope (key, vs) = true
    · rw [List.filter_cons_of_pos hp, List.flatMap_cons, List.filter_append, hmap, ← ih]
      by_cases hl : leftOf gone key vs = []
      · simp [entry, hl]
      · simp [entry, hl, List.filter_cons_of_pos (hsw.trans hp)]
    · rw [List.filter_cons_of_neg hp, ← ih]
      by_cases hl : leftOf gone key vs = []
      · simp [entry, hl]
      · simp [entry, hl, hsw, hp]

end Bucket

namespace Memory

/-- The store without the versions of a bucket that `gone` refers to. -/
def without (m : Memory) (name : String) (gone : List ObjectRef) : Memory :=
  match m.buckets.find? name with
  | none => m
  | some b => m.setBucket name (b.without gone)

/-- Deletions of the key are refused. -/
def refuses (m : Memory) (key : String) : Bool :=
  m.faults.failingKeys.contains key

/-- The references whose deletion is not refused. -/
def deletable (m : Memory) (refs : List ObjectRef) : List ObjectRef :=
  refs.filter fun ref => !m.refuses ref.key

/-- What a bulk deletion of references deletes. -/
def bulkDeletable (m : Memory) (refs : List ObjectRef) : List ObjectRef :=
  if m.faults.bulk = .supported then m.deletable refs else []

/-- The failures that one bulk request reports. -/
def bulkFailures (m : Memory) (batch : List ObjectRef) : List DeleteFailure :=
  match m.faults.bulk with
  | .supported =>
    (batch.filter fun ref => m.refuses ref.key).map fun ref =>
      .object ref (Error.backend (.accessDenied ref.key)).message
  | .unsupported => [.request (.backend .bulkDeleteNotImplemented)]
  | .rejectAll => batch.map (.object · "AccessDenied")

variable {m m₀ : Memory} {name : String} {b : Bucket} {gone refs : List ObjectRef} {armed : Nat}

theorem without_eq (hb : m.buckets.find? name = some b) :
    m.without name gone = m.setBucket name (b.without gone) := by
  simp [without, hb]

theorem find?_without_self (hb : m.buckets.find? name = some b) :
    (m.without name gone).buckets.find? name = some (b.without gone) := by
  simp [without_eq hb, setBucket]

theorem find?_without_of_ne {other : String} (h : name ≠ other) :
    (m.without name gone).buckets.find? other = m.buckets.find? other := by
  unfold without
  split
  · rfl
  · exact KeyMap.find?_insert_of_ne _ _ h

theorem deletable_append (m : Memory) (r s : List ObjectRef) :
    m.deletable (r ++ s) = m.deletable r ++ m.deletable s :=
  List.filter_append ..

theorem bulkDeletable_append (m : Memory) (r s : List ObjectRef) :
    m.bulkDeletable (r ++ s) = m.bulkDeletable r ++ m.bulkDeletable s := by
  unfold bulkDeletable
  split
  · exact deletable_append m r s
  · rfl

/-- Of a bucket of `m₀` exactly the versions in `gone` have been deleted, and nothing else has changed
but the counters and the number of armed listings, which is `armed`. -/
structure Lost (m₀ : Memory) (name : String) (gone : List ObjectRef) (armed : Nat) (m : Memory) :
    Prop where
  buckets : m.buckets = (m₀.without name gone).buckets
  faults : m.faults = { m₀.faults with failingListings := armed }

theorem Lost.refl (hs : m.Sound) (name : String) : Lost m name [] m.faults.failingListings m := by
  refine ⟨?_, rfl⟩
  unfold without
  cases hb : m.buckets.find? name with
  | none => rfl
  | some b => simp [setBucket, (hs name b hb).without_nil, KeyMap.insert_find? hb]

theorem Lost.find? (h : Lost m₀ name gone armed m) (hb : m₀.buckets.find? name = some b) :
    m.buckets.find? name = some (b.without gone) := by
  rw [h.buckets, find?_without_self hb]

theorem Lost.refuses (h : Lost m₀ name gone armed m) (key : String) :
    m.refuses key = m₀.refuses key := by
  simp [Memory.refuses, h.faults]

/-- Only the members of `gone` that refer to something matter. -/
theorem Lost.congr (h : Lost m₀ name gone armed m) (hs : m₀.Sound) {gone' : List ObjectRef}
    (hg : ∀ b, m₀.buckets.find? name = some b →
      ∀ key, ∀ v ∈ b.versionsOf key, (⟨key, v.id⟩ ∈ gone ↔ ⟨key, v.id⟩ ∈ gone')) :
    Lost m₀ name gone' armed m := by
  refine ⟨?_, h.faults⟩
  rw [h.buckets]
  unfold without
  cases hb : m₀.buckets.find? name with
  | none => rfl
  | some b => simp only [(hs name b hb).without_congr (hg b hb)]

/-- A store that has lost versions in one bucket loses some more. -/
theorem Lost.setBucket (h : Lost m₀ name gone armed m) (hs : m₀.Sound)
    (hb : m₀.buckets.find? name = some b) (more : List ObjectRef) :
    Lost m₀ name (gone ++ more) armed (m.setBucket name ((b.without gone).without more)) := by
  refine ⟨?_, h.faults⟩
  rw [without_eq hb, (hs name b hb).without_without]
  simp [Memory.setBucket, h.buckets, without_eq hb, KeyMap.insert_insert]

/-! ## Single deletions -/

/-- What a deletion of named versions does to the bucket. -/
theorem delete_eq {next : Nat} (hs : b.Sound next) (hb : m.buckets.find? name = some b)
    {ref : ObjectRef} (hr : b.Names ref) :
    m.delete name ref =
      if m.refuses ref.key then (.error (.accessDenied ref.key), m)
      else (.ok (), m.setBucket name (b.without [ref])) := by
  obtain ⟨key, version⟩ := ref
  have hput : ∀ kept, kept = Bucket.leftOf [⟨key, version⟩] key (b.versionsOf key) →
      b.setVersions key kept = b.without [⟨key, version⟩] := fun kept hk =>
    hk ▸ hs.setVersions_leftOf ⟨key, version⟩
  have hkeys : m.faults.failingKeys.contains key = m.refuses key := rfl
  simp only [delete, hb, hkeys]
  by_cases hf : m.refuses key = true
  · rw [if_pos hf, if_pos hf]
  rw [if_neg hf, if_neg hf]
  cases version with
  | some id =>
    simp only
    split
    next hvs =>
      have hnone : b.versionsOf key = [] := List.isEmpty_iff.1 hvs
      rw [← hput [] (by simp [hnone, Bucket.leftOf]), ← hnone, hs.setVersions_self, setBucket,
        KeyMap.insert_find? hb]
    next =>
      rw [hput _ (List.filter_congr fun v _ => by by_cases hv : v.id = some id <;> simp [hv])]
  | none =>
    have hv : b.versioned = false := by
      cases hver : b.versioned with
      | false => rfl
      | true => exact absurd (hr hver) (by simp)
    have hall : Bucket.leftOf [⟨key, none⟩] key (b.versionsOf key) = [] := by
      apply List.filter_eq_nil_iff.2
      intro v hm
      have := (hs.versions key).plain hv v hm
      simp [this.1]
    simp only [hv]
    rw [if_neg (by simp), hput [] hall.symm]

/-- **Single deletion.** A listed version goes, unless the deletion of its key is refused. -/
theorem Lost.delete (h : Lost m₀ name gone armed m) (hs : m₀.Sound)
    (hb : m₀.buckets.find? name = some b) {ref : ObjectRef} (hr : b.Names ref) :
    (m.delete name ref).1 = (if m₀.refuses ref.key then .error (.accessDenied ref.key) else .ok ()) ∧
      Lost m₀ name (gone ++ m₀.deletable [ref]) armed (m.delete name ref).2 := by
  have hr' : (b.without gone).Names ref := hr
  rw [delete_eq ((hs name b hb).without gone) (h.find? hb) hr', h.refuses]
  by_cases hf : m₀.refuses ref.key = true
  · simpa [hf, deletable] using h
  · simpa [hf, deletable] using h.setBucket hs hb [ref]

/-- The counters of a store are of no consequence. -/
theorem Lost.startRemoval (h : Lost m₀ name gone armed m) : Lost m₀ name gone armed m.startRemoval :=
  ⟨h.buckets, h.faults⟩

theorem Lost.endRemoval (h : Lost m₀ name gone armed m) (hs : m₀.Sound)
    (hb : m₀.buckets.find? name = some b) {ref : ObjectRef} (hr : b.Names ref) :
    (memory.endRemoval name ref m).1 =
        (if m₀.refuses ref.key then .failed (.backend (.accessDenied ref.key)) else .done ()) ∧
      Lost m₀ name (gone ++ m₀.deletable [ref]) armed (memory.endRemoval name ref m).2 := by
  obtain ⟨hres, hlost⟩ := h.delete hs hb hr
  have hreply : (memory.endRemoval name ref m).1 = Reply.ofExcept (m.delete name ref).1 := rfl
  refine ⟨?_, hlost.buckets, hlost.faults⟩
  rw [hreply, hres]
  split <;> rfl

/-- A bucket that has lost everything is removed. -/
theorem Lost.removeBucket (h : Lost m₀ name gone armed m) (hb : m₀.buckets.find? name = some b)
    (hall : b.refs "" ⊆ gone) :
    (memory.removeBucket name m).1 = .done () ∧
      (memory.removeBucket name m).2.buckets = m₀.buckets.erase name := by
  have hempty : (b.without gone).objects.isEmpty = true := by
    apply KeyMap.isEmpty_iff.2
    intro key
    simp only [Bucket.without, KeyMap.find?_restrict]
    cases hf : b.objects.find? key with
    | none => rfl
    | some vs =>
      have hleft : Bucket.leftOf gone key vs = [] := by
        apply List.filter_eq_nil_iff.2
        intro v hv
        have hmem : (⟨key, v.id⟩ : ObjectRef) ∈ b.refs "" :=
          Bucket.mem_refs.2 ⟨by simp, v, by rwa [Bucket.versionsOf_eq_of_find? hf], rfl⟩
        simpa using hall hmem
      simp [hleft, Bucket.entry]
  have hbuckets : m.buckets.erase name = m₀.buckets.erase name := by
    rw [h.buckets, without_eq hb]
    exact KeyMap.erase_insert _ _ _
  simp only [memory, Memory.removeBucket, h.find? hb, hempty, if_true]
  exact ⟨rfl, hbuckets⟩

/-! ## Bulk deletions -/

theorem Lost.deleteAll (h : Lost m₀ name gone armed m) (hs : m₀.Sound)
    (hb : m₀.buckets.find? name = some b) (hr : ∀ ref ∈ refs, b.Names ref) :
    (m.deleteAll name refs).1 = ((refs.filter fun ref => m₀.refuses ref.key).map fun ref =>
        .object ref (Error.backend (.accessDenied ref.key)).message) ∧
      Lost m₀ name (gone ++ m₀.deletable refs) armed (m.deleteAll name refs).2 := by
  induction refs generalizing m gone with
  | nil => simpa [Memory.deleteAll, deletable] using h
  | cons ref rest ih =>
    obtain ⟨hres, hdel⟩ := h.delete hs hb (hr ref (by simp))
    obtain ⟨hfail, hrest⟩ := ih hdel fun r hm => hr r (by simp [hm])
    rw [List.append_assoc, ← deletable_append, List.singleton_append] at hrest
    refine ⟨?_, (deleteAll_cons_snd m name ref rest).symm ▸ hrest⟩
    simp only [Memory.deleteAll, hres]
    by_cases hf : m₀.refuses ref.key = true
    · simp [hf, hfail]
    · simp [hf, hfail]

theorem Lost.bulkRequest (h : Lost m₀ name gone armed m) (hs : m₀.Sound)
    (hb : m₀.buckets.find? name = some b) (hr : ∀ ref ∈ refs, b.Names ref) :
    (m.bulkRequest name refs).1 = m₀.bulkFailures refs ∧
      Lost m₀ name (gone ++ m₀.bulkDeletable refs) armed (m.bulkRequest name refs).2 := by
  have hcount : Lost m₀ name gone armed { m with counters :=
      { m.counters with bulkRequests := m.counters.bulkRequests + 1 } } := ⟨h.buckets, h.faults⟩
  have hbulk : m.faults.bulk = m₀.faults.bulk := by simp [h.faults]
  simp only [Memory.bulkRequest, bulkFailures, bulkDeletable, hbulk]
  cases hm : m₀.faults.bulk with
  | supported => simpa using hcount.deleteAll hs hb hr
  | unsupported => simpa using hcount
  | rejectAll => simpa using hcount

theorem Lost.bulkRequests {batches : List (List ObjectRef)} (h : Lost m₀ name gone armed m)
    (hs : m₀.Sound) (hb : m₀.buckets.find? name = some b)
    (hr : ∀ ref ∈ batches.flatten, b.Names ref) :
    (m.bulkRequests name batches).1 = batches.flatMap m₀.bulkFailures ∧
      Lost m₀ name (gone ++ m₀.bulkDeletable batches.flatten) armed
        (m.bulkRequests name batches).2 := by
  induction batches generalizing m gone with
  | nil => simpa [Memory.bulkRequests, bulkDeletable, deletable] using h
  | cons batch rest ih =>
    rw [List.flatten_cons] at hr
    have hrbatch : ∀ ref ∈ batch, b.Names ref := fun r hm => hr r (List.mem_append_left _ hm)
    obtain ⟨hfail, hbatch⟩ := h.bulkRequest hs hb hrbatch
    obtain ⟨hfails, hrest⟩ := ih hbatch fun r hm => hr r (List.mem_append_right _ hm)
    rw [List.append_assoc, ← bulkDeletable_append, ← List.flatten_cons] at hrest
    refine ⟨?_, hrest⟩
    simp only [Memory.bulkRequests, List.flatMap_cons, hfail, hfails]

theorem flatten_chunks {α : Type} {n : Nat} (hn : 0 < n) (xs : List α) :
    (chunks n xs).flatten = xs := by
  induction xs using chunks.induct n with
  | case1 xs h =>
    unfold chunks
    rw [dif_pos h]
    rcases h with h | h
    · omega
    · exact h.symm
  | case2 xs h ih =>
    unfold chunks
    rw [dif_neg h, List.flatten_cons, ih, List.take_append_drop]

/-- **Bulk deletion.** However many requests it takes, a bulk deletion of listed versions deletes and
reports what its behaviour says of each. -/
theorem Lost.takeBatch (h : Lost m₀ name gone armed m) (hs : m₀.Sound)
    (hb : m₀.buckets.find? name = some b) (hr : ∀ ref ∈ refs, b.Names ref) :
    (m.takeBatch name refs).1 = (chunks batchSize refs).flatMap m₀.bulkFailures ∧
      Lost m₀ name (gone ++ m₀.bulkDeletable refs) armed (m.takeBatch name refs).2 := by
  have hflat : (chunks batchSize refs).flatten = refs := flatten_chunks (by decide) refs
  have hbatches : ∀ ref ∈ (chunks batchSize refs).flatten, b.Names ref := by rwa [hflat]
  have := h.bulkRequests hs hb hbatches
  rwa [hflat] at this

/-! ## Listings -/

/-- Where the next listing breaks off, if `armed` listings still do. -/
def breaksAt (m : Memory) (armed : Nat) : Option Nat :=
  if armed = 0 then none else some m.faults.deliveredBefore

theorem takeListingFault_eq (m : Memory) :
    m.takeListingFault = (m.breaksAt m.faults.failingListings,
      { m with faults := { m.faults with failingListings := m.faults.failingListings - 1 } }) := by
  obtain ⟨buckets, ⟨bulk, failing, listings, before, delay⟩, counters, next⟩ := m
  cases listings <;> rfl

/-- **Listing.** A listing finds what is left, and uses up an armed fault if there is any. -/
theorem Lost.list (h : Lost m₀ name gone armed m) (scope : String) :
    (m.list name scope).1 = (match m₀.buckets.find? name with
        | none => [.failed (.backend (.noSuchBucket name))]
        | some b => events (m₀.breaksAt armed) 0 ((b.without gone).refs scope)) ∧
      Lost m₀ name gone (armed - 1) (m.list name scope).2 := by
  have hbreak : m.breaksAt m.faults.failingListings = m₀.breaksAt armed := by
    simp [breaksAt, h.faults]
  have hafter : Lost m₀ name gone (armed - 1)
      { m with
        faults := { m.faults with failingListings := m.faults.failingListings - 1 }
        counters := { m.counters with listings := m.counters.listings + 1 } } :=
    ⟨h.buckets, by simp [h.faults]⟩
  simp only [Memory.list, takeListingFault_eq]
  cases hb : m₀.buckets.find? name with
  | none =>
    have hm : m.buckets.find? name = none := by rw [h.buckets]; simp [without, hb]
    simpa [hm] using hafter
  | some b =>
    simp only [h.find? hb]
    exact ⟨by rw [← hbreak]; rfl, hafter⟩

end Memory

end ObjectVolume.Store
