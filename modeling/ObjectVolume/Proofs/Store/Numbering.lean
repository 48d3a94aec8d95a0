import Mathlib.Data.List.Perm.Subperm
import ObjectVolume.Proofs.Store.Reachable
/-!
# The numbers of versions

No number is given out twice, so that no two versions in a store have the same id, whatever keys and
buckets they belong to (`Memory.Reachable.numbered`). Each operation puts versions in place of those
of one key, of which at most one is new; `ids_setBucket` and `ids_setVersions` say what becomes of the
ids of all others.
-/
namespace ObjectVolume.Store

open List (Subperm)

/-- The ids among versions. -/
def idsOf (vs : List Version) : List String :=
  vs.filterMap (·.id)

/-- The ids of all versions in a bucket. -/
def Bucket.ids (b : Bucket) : List String :=
  idsOf b.versions

/-- The ids of all versions in a store. -/
def Memory.ids (m : Memory) : List String :=
  m.buckets.values.flatMap Bucket.ids

theorem idsOf_append (vs ws : List Version) : idsOf (vs ++ ws) = idsOf vs ++ idsOf ws :=
  List.filterMap_append

theorem idsOf_sublist {vs ws : List Version} (h : vs.Sublist ws) : (idsOf vs).Sublist (idsOf ws) :=
  h.filterMap _

/-! ## What is put in place -/

namespace Bucket

theorem ids_eq (b : Bucket) : b.ids = b.objects.values.flatMap idsOf := by
  unfold ids versions idsOf
  rw [List.filterMap_flatten, List.flatMap_def]

/-- The ids of one key and those of all others. -/
theorem ids_perm (b : Bucket) (key : String) :
    b.ids.Perm (idsOf (b.versionsOf key) ++ (b.objects.erase key).values.flatMap idsOf) := by
  rw [ids_eq]
  cases h : b.objects.find? key with
  | none =>
    rw [KeyMap.erase_eq_self h, versionsOf, h]
    exact .refl _
  | some vs =>
    rw [versionsOf_eq_of_find? h, ← List.flatMap_cons]
    exact (KeyMap.values_perm_of_find? h).flatMap_right _

/-- Versions put in place of those of a key leave the ids of all other keys. -/
theorem ids_setVersions (b : Bucket) (key : String) (vs : List Version) :
    (b.setVersions key vs).ids.Perm (idsOf vs ++ (b.objects.erase key).values.flatMap idsOf) := by
  rw [ids_eq]
  by_cases h : vs = []
  · simp [setVersions, h, idsOf]
  · rw [setVersions_eq_insert b key h, ← List.flatMap_cons]
    exact (KeyMap.values_insert_perm _ _ _).flatMap_right _

/-- What the ids of one key have gained at most, the bucket has. -/
theorem ids_setVersions_subperm {b : Bucket} {key : String} {vs : List Version} {l : List String}
    (h : (idsOf vs).Subperm (l ++ idsOf (b.versionsOf key))) :
    (b.setVersions key vs).ids.Subperm (l ++ b.ids) := by
  refine (b.ids_setVersions key vs).subperm.trans ?_
  refine Subperm.trans (h.append (.refl _)) ?_
  rw [List.append_assoc]
  exact ((b.ids_perm key).symm.append_left l).subperm

end Bucket

namespace Memory

/-- The ids of one bucket and those of all others. -/
theorem ids_perm (m : Memory) (name : String) :
    m.ids.Perm (((m.buckets.find? name).getD {}).ids ++
      (m.buckets.erase name).values.flatMap Bucket.ids) := by
  unfold ids
  cases h : m.buckets.find? name with
  | none =>
    rw [KeyMap.erase_eq_self h]
    exact .refl _
  | some b =>
    rw [Option.getD_some, ← List.flatMap_cons]
    exact (KeyMap.values_perm_of_find? h).flatMap_right _

/-- A bucket put in place of another leaves the ids of all others. -/
theorem ids_setBucket (m : Memory) (name : String) (b : Bucket) :
    (m.setBucket name b).ids.Perm (b.ids ++ (m.buckets.erase name).values.flatMap Bucket.ids) := by
  unfold ids setBucket
  rw [← List.flatMap_cons]
  exact (KeyMap.values_insert_perm _ _ _).flatMap_right _

/-- What the ids of one bucket have gained at most, the store has. -/
theorem ids_setBucket_subperm {m : Memory} {name : String} {b : Bucket} {l : List String}
    (h : b.ids.Subperm (l ++ ((m.buckets.find? name).getD {}).ids)) :
    (m.setBucket name b).ids.Subperm (l ++ m.ids) := by
  refine (m.ids_setBucket name b).subperm.trans ?_
  refine Subperm.trans (h.append (.refl _)) ?_
  rw [List.append_assoc]
  exact ((m.ids_perm name).symm.append_left l).subperm

/-! ## Numbers are given out once -/

/-- No two versions have the same id, and the next number is the id of none. -/
structure Numbered (m : Memory) : Prop where
  distinct : m.ids.Nodup
  issued : ∀ id ∈ m.ids, ∃ n < m.nextVersion, id = versionId n

variable {m m' : Memory}

/-- Nothing goes wrong while ids only go. -/
theorem Numbered.of_subperm (h : m.Numbered) (hids : m'.ids.Subperm m.ids)
    (hnext : m.nextVersion ≤ m'.nextVersion) : m'.Numbered := by
  obtain ⟨l, hperm, hsub⟩ := hids
  refine ⟨hperm.nodup_iff.1 (h.distinct.sublist hsub), ?_⟩
  intro id hid
  obtain ⟨n, hn, rfl⟩ := h.issued id (hsub.subset (hperm.symm.subset hid))
  exact ⟨n, Nat.lt_of_lt_of_le hn hnext, rfl⟩

/-- A version may get the next number. -/
theorem Numbered.issue (h : m.Numbered) (hids : m'.ids.Subperm (versionId m.nextVersion :: m.ids))
    (hnext : m'.nextVersion = m.nextVersion + 1) : m'.Numbered := by
  obtain ⟨l, hperm, hsub⟩ := hids
  have hfresh : versionId m.nextVersion ∉ m.ids := by
    intro hid
    obtain ⟨n, hn, heq⟩ := h.issued _ hid
    have := versionId_inj heq
    omega
  refine ⟨hperm.nodup_iff.1 ((List.nodup_cons.2 ⟨hfresh, h.distinct⟩).sublist hsub), ?_⟩
  intro id hid
  rcases List.mem_cons.1 (hsub.subset (hperm.symm.subset hid)) with rfl | hid
  · exact ⟨m.nextVersion, by omega, rfl⟩
  · obtain ⟨n, hn, rfl⟩ := h.issued id hid
    exact ⟨n, by omega, rfl⟩

/-! ## Operations -/

/-- A bucket is replaced by one without new ids. -/
theorem Numbered.setBucket (h : m.Numbered) {name : String} {b : Bucket}
    (hb : b.ids.Subperm ((m.buckets.find? name).getD {}).ids) : (m.setBucket name b).Numbered :=
  h.of_subperm (ids_setBucket_subperm (l := []) hb) (Nat.le_refl _)

/-- A new version joins some of those of a key. -/
theorem Numbered.push (h : m.Numbered) {name key : String} {b : Bucket}
    (hb : (m.buckets.find? name).getD {} = b) {older : List Version}
    (ho : older.Sublist (b.versionsOf key)) (data : Option ByteArray) :
    ((m.takeVersionId b).2.setBucket name
      (b.setVersions key (older ++ [⟨(m.takeVersionId b).1, data⟩]))).Numbered := by
  have hold := (idsOf_sublist ho).subperm
  subst hb
  by_cases hv : ((m.buckets.find? name).getD {}).versioned = true
  · simp only [takeVersionId, hv, if_true]
    have hnew : (idsOf (older ++ [⟨some (versionId m.nextVersion), data⟩])).Subperm
        ([versionId m.nextVersion] ++ idsOf (((m.buckets.find? name).getD {}).versionsOf key)) := by
      rw [idsOf_append]
      exact (List.perm_append_comm).subperm.trans ((Subperm.refl _).append hold)
    refine h.issue ?_ rfl
    exact ids_setBucket_subperm (m := { m with nextVersion := m.nextVersion + 1 })
      (Bucket.ids_setVersions_subperm hnew)
  · simp only [takeVersionId, hv]
    refine h.setBucket ?_
    refine Bucket.ids_setVersions_subperm (l := []) ?_
    rw [idsOf_append]
    simpa [idsOf] using hold

theorem Numbered.put (h : m.Numbered) (name key : String) (data : ByteArray) :
    (m.put name key data).2.Numbered := by
  unfold Memory.put
  cases hf : m.buckets.find? name with
  | none => exact h
  | some b =>
    refine h.push (by rw [hf]; rfl) ?_ (some data)
    split
    · exact .refl _
    · exact List.nil_sublist _

theorem Numbered.delete (h : m.Numbered) (name : String) (ref : ObjectRef) :
    (m.delete name ref).2.Numbered := by
  unfold Memory.delete
  split
  · exact h
  cases hf : m.buckets.find? name with
  | none => exact h
  | some b =>
    have hb : (m.buckets.find? name).getD {} = b := by rw [hf]; rfl
    -- versions go, and none is added
    have hless {kept : List Version} (hk : kept.Sublist (b.versionsOf ref.key)) :
        (m.setBucket name (b.setVersions ref.key kept)).Numbered := by
      refine h.setBucket ?_
      rw [hb]
      exact Bucket.ids_setVersions_subperm (l := []) (idsOf_sublist hk).subperm
    cases hr : ref.version with
    | some id =>
      simp only
      split
      · exact h
      · exact hless List.filter_sublist
    | none =>
      simp only
      split
      · exact h.push hb (.refl _) none
      · exact hless (List.nil_sublist _)

theorem Numbered.deleteAll (h : m.Numbered) (name : String) (refs : List ObjectRef) :
    (m.deleteAll name refs).2.Numbered := by
  induction refs generalizing m with
  | nil => exact h
  | cons ref rest ih =>
    rw [deleteAll_cons_snd]
    exact ih (h.delete name ref)

theorem Numbered.bulkRequest (h : m.Numbered) (name : String) (batch : List ObjectRef) :
    (m.bulkRequest name batch).2.Numbered := by
  have hm : ({ m with counters :=
      { m.counters with bulkRequests := m.counters.bulkRequests + 1 } } : Memory).Numbered :=
    ⟨h.distinct, h.issued⟩
  unfold Memory.bulkRequest
  simp only
  split
  · exact hm.deleteAll name batch
  · exact hm
  · exact hm

theorem Numbered.list (h : m.Numbered) (name scope : String) : (m.list name scope).2.Numbered := by
  unfold Memory.list Memory.takeListingFault
  simp only
  split <;> split <;> exact ⟨h.distinct, h.issued⟩

theorem Numbered.removeBucket (h : m.Numbered) (name : String) :
    (m.removeBucket name).2.Numbered := by
  unfold Memory.removeBucket
  simp only
  split
  · exact ⟨h.distinct, h.issued⟩
  · split
    · refine h.of_subperm ?_ (Nat.le_refl _)
      refine Subperm.trans ?_ (m.ids_perm name).symm.subperm
      exact (List.sublist_append_right _ _).subperm
    · exact ⟨h.distinct, h.issued⟩

theorem Numbered.setNewBucket (h : m.Numbered) (name region : String) (versioned : Bool) :
    (m.setBucket name { region, versioned }).Numbered :=
  h.setBucket (List.nil_sublist _).subperm

theorem Numbered.seed (h : m.Numbered) (name : String) (keys : List String) :
    (m.seed name keys).Numbered := by
  have hm : (m.setBucket name ((m.buckets.find? name).getD {})).Numbered :=
    h.setBucket (Subperm.refl _)
  unfold Memory.seed
  simp only
  generalize m.setBucket name ((m.buckets.find? name).getD {}) = m' at hm ⊢
  clear h
  induction keys generalizing m' with
  | nil => exact hm
  | cons key keys ih =>
    refine ih _ ?_
    have hnone : [].Sublist (((m'.buckets.find? name).getD {}).versionsOf key) := List.nil_sublist _
    have hpush := hm.push rfl hnone (some .empty)
    rwa [Bucket.setVersions_eq_insert _ _ (by simp)] at hpush

/-- **Numbers.** No two versions in a store have the same id. -/
theorem Reachable.numbered (h : m.Reachable) : m.Numbered := by
  induction h with
  | empty => exact ⟨.nil, by simp [ids, KeyMap.values, KeyMap.empty]⟩
  | arm faults _ ih => exact ⟨ih.distinct, ih.issued⟩
  | createVersionedBucket name _ ih => exact ih.setNewBucket name _ _
  | seed name keys _ ih => exact ih.seed name keys
  | @makeBucket m name region _ ih =>
    unfold Memory.makeBucket
    split
    · exact ih
    · exact ih.setNewBucket name _ _
  | put name key data _ ih => exact ih.put name key data
  | list name scope _ ih => exact ih.list name scope
  | bulkRequest name batch _ ih => exact ih.bulkRequest name batch
  | startRemoval _ ih => exact ⟨ih.distinct, ih.issued⟩
  | endRemoval name ref _ ih => exact ⟨(ih.delete name ref).distinct, (ih.delete name ref).issued⟩
  | removeBucket name _ ih => exact ih.removeBucket name

end Memory

end ObjectVolume.Store
