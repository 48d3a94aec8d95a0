import ObjectVolume.Proofs.Store.KeyMap
import ObjectVolume.Store.Memory
/-!
# What the store in memory can come to hold

`Memory.Reachable` are the stores that calls can lead to, whatever faults are armed on the way. In all
of them no key is without versions, a bucket that keeps all versions gives each of them an id of its
own and keeps them in the order of their creation, and a bucket that keeps one version keeps exactly one
(`Memory.Reachable.sound`).
-/
namespace ObjectVolume.Store

/-- The id of the version with a number. -/
def versionId (n : Nat) : String := "v" ++ toString n

theorem versionId_inj {m n : Nat} (h : versionId m = versionId n) : m = n := by
  have hdigits : Nat.toDigits 10 m = Nat.toDigits 10 n := by
    simpa [String.ext_iff] using (String.append_right_inj "v").1 h
  rw [← Nat.ofDigitChars_ten_toDigits (n := m), hdigits, Nat.ofDigitChars_ten_toDigits]

/-! ## The versions of one key -/

/-- The version was created before the other: its number is lower. -/
def Version.Older (v w : Version) : Prop :=
  ∃ n k, n < k ∧ v.id = some (versionId n) ∧ w.id = some (versionId k)

theorem Version.Older.id_ne {v w : Version} (h : v.Older w) : v.id ≠ w.id := by
  obtain ⟨n, k, hlt, hv, hw⟩ := h
  rw [hv, hw]
  intro heq
  have := versionId_inj (Option.some.inj heq)
  omega

/-- What holds of the versions of a key before version number `next` is given out. -/
structure SoundVersions (next : Nat) (versioned : Bool) (vs : List Version) : Prop where
  issued : versioned = true → ∀ v ∈ vs, ∃ n < next, v.id = some (versionId n)
  plain : versioned = false → ∀ v ∈ vs, v.id = none ∧ v.data.isSome
  /-- The oldest version comes first. -/
  ascending : vs.Pairwise Version.Older

namespace SoundVersions

variable {next next' : Nat} {versioned : Bool} {vs ws : List Version}

theorem nil : SoundVersions next versioned [] := ⟨by simp, by simp, by simp⟩

theorem mono (h : SoundVersions next versioned vs) (hle : next ≤ next') :
    SoundVersions next' versioned vs := by
  refine ⟨fun hv v hm => ?_, h.plain, h.ascending⟩
  obtain ⟨n, hn, hid⟩ := h.issued hv v hm
  exact ⟨n, Nat.lt_of_lt_of_le hn hle, hid⟩

theorem sublist (h : SoundVersions next versioned vs) (hs : ws.Sublist vs) :
    SoundVersions next versioned ws :=
  ⟨fun hv v hm => h.issued hv v (hs.subset hm), fun hv v hm => h.plain hv v (hs.subset hm),
    h.ascending.sublist hs⟩

/-- A version with the next number joins the others. -/
theorem snoc (h : SoundVersions next true vs) (data : Option ByteArray) :
    SoundVersions (next + 1) true (vs ++ [⟨some (versionId next), data⟩]) := by
  refine ⟨fun _ v hm => ?_, by simp, ?_⟩
  · rcases List.mem_append.1 hm with hm | hm
    · exact (h.mono (Nat.le_succ next)).issued rfl v hm
    · exact ⟨next, Nat.lt_succ_self next, by simp [List.mem_singleton.1 hm]⟩
  · refine List.pairwise_append.2 ⟨h.ascending, by simp, fun v hv w hw => ?_⟩
    obtain ⟨n, hn, hid⟩ := h.issued rfl v hv
    exact ⟨n, next, hn, hid, by simp [List.mem_singleton.1 hw]⟩

theorem single (data : ByteArray) : SoundVersions next false [⟨none, some data⟩] :=
  ⟨by simp, by simp, by simp⟩

/-- No two versions have the same id. -/
theorem distinct (h : SoundVersions next versioned vs) : (vs.map (·.id)).Nodup :=
  List.pairwise_map.2 (h.ascending.imp Version.Older.id_ne)

end SoundVersions

/-! ## Buckets -/

namespace Bucket

/-- Versions as the entry of a key; a key without versions has none. -/
def entry (vs : List Version) : Option (List Version) :=
  if vs = [] then none else some vs

theorem entry_ne_some_nil (vs : List Version) : entry vs ≠ some [] := by
  unfold entry
  split
  · simp
  next h => simpa using h

@[simp]
theorem getD_entry (vs : List Version) : (entry vs).getD [] = vs := by
  by_cases h : vs = [] <;> simp [entry, h]

theorem versionsOf_eq_of_find? {b : Bucket} {key : String} {vs : List Version}
    (h : b.objects.find? key = some vs) : b.versionsOf key = vs := by
  simp [versionsOf, h]

/-- Every key has versions, and they are as the bucket keeps them. -/
structure Sound (next : Nat) (b : Bucket) : Prop where
  kept : ∀ key, b.objects.find? key ≠ some []
  versions : ∀ key, SoundVersions next b.versioned (b.versionsOf key)

theorem Sound.find?_eq {next : Nat} {b : Bucket} (h : b.Sound next) (key : String) :
    b.objects.find? key = entry (b.versionsOf key) := by
  cases hf : b.objects.find? key with
  | none => simp [versionsOf, hf, entry]
  | some vs =>
    have hvs : vs ≠ [] := fun he => h.kept key (he ▸ hf)
    simp [versionsOf, hf, entry, hvs]

theorem Sound.mono {next next' : Nat} {b : Bucket} (h : b.Sound next) (hle : next ≤ next') :
    b.Sound next' :=
  ⟨h.kept, fun key => (h.versions key).mono hle⟩

theorem sound_new (next : Nat) (region : String) (versioned : Bool) :
    ({ region, versioned } : Bucket).Sound next :=
  ⟨fun _ => by simp, fun _ => .nil⟩

theorem find?_setVersions (b : Bucket) (key k : String) (vs : List Version) :
    (b.setVersions key vs).objects.find? k =
      if k = key then entry vs else b.objects.find? k := by
  by_cases hk : k = key
  · subst hk
    by_cases hvs : vs = [] <;> simp [setVersions, entry, hvs]
  · have hk' : key ≠ k := Ne.symm hk
    by_cases hvs : vs = []
    · simp [setVersions, hvs, hk, KeyMap.find?_erase_of_ne _ hk']
    · simp [setVersions, hvs, hk, KeyMap.find?_insert_of_ne _ _ hk']

theorem versionsOf_setVersions (b : Bucket) (key k : String) (vs : List Version) :
    (b.setVersions key vs).versionsOf k = if k = key then vs else b.versionsOf k := by
  simp only [versionsOf, find?_setVersions]
  by_cases hk : k = key <;> simp [hk]

theorem Sound.setVersions {next next' : Nat} {b : Bucket} (h : b.Sound next) (hle : next ≤ next')
    (key : String) {vs : List Version} (hvs : SoundVersions next' b.versioned vs) :
    (b.setVersions key vs).Sound next' := by
  refine ⟨fun k => ?_, fun k => ?_⟩
  · rw [find?_setVersions]
    split
    · exact entry_ne_some_nil vs
    · exact h.kept k
  · rw [versionsOf_setVersions]
    split
    · exact hvs
    · exact (h.versions k).mono hle

/-- Putting versions in place is inserting them, unless there are none. -/
theorem setVersions_eq_insert (b : Bucket) (key : String) {vs : List Version} (h : vs ≠ []) :
    b.setVersions key vs = { b with objects := b.objects.insert key vs } := by
  simp [Bucket.setVersions, h]

end Bucket

/-! ## Stores -/

namespace Memory

/-- All buckets are sound. -/
def Sound (m : Memory) : Prop :=
  ∀ name b, m.buckets.find? name = some b → b.Sound m.nextVersion

theorem Sound.setBucket {m : Memory} (h : m.Sound) {next : Nat} (hle : m.nextVersion ≤ next)
    (name : String) {b : Bucket} (hb : b.Sound next) :
    ({ m with nextVersion := next }.setBucket name b).Sound := by
  intro n b' hb'
  by_cases hn : name = n
  · subst hn
    have : b = b' := by simpa [Memory.setBucket] using hb'
    exact this ▸ hb
  · have : m.buckets.find? n = some b' := by
      simpa [Memory.setBucket, KeyMap.find?_insert_of_ne _ _ hn] using hb'
    exact (h n b' this).mono hle

/-- A new version of a key is sound: with an id if the bucket keeps all versions, else on its own. -/
theorem Sound.push {m : Memory} (h : m.Sound) (name key : String) {b : Bucket}
    (hb : b.Sound m.nextVersion) {older : List Version} (data : Option ByteArray)
    (ho : SoundVersions m.nextVersion b.versioned older)
    (hplain : b.versioned = false → older = [] ∧ data.isSome) :
    ((m.takeVersionId b).2.setBucket name
      (b.setVersions key (older ++ [⟨(m.takeVersionId b).1, data⟩]))).Sound := by
  by_cases hv : b.versioned = true
  · have hsnoc : SoundVersions (m.nextVersion + 1) b.versioned
        (older ++ [⟨some (versionId m.nextVersion), data⟩]) := by
      rw [hv] at ho ⊢
      exact ho.snoc data
    have := h.setBucket (Nat.le_succ _) name (hb.setVersions (Nat.le_succ _) key hsnoc)
    simpa [takeVersionId, hv, versionId] using this
  · have hv : b.versioned = false := by simpa using hv
    obtain ⟨rfl, hd⟩ := hplain hv
    obtain ⟨d, rfl⟩ := Option.isSome_iff_exists.1 hd
    have hsingle : SoundVersions m.nextVersion b.versioned [⟨none, some d⟩] := by
      rw [hv]
      exact .single d
    have := h.setBucket (Nat.le_refl _) name (hb.setVersions (Nat.le_refl _) key hsingle)
    simpa [takeVersionId, hv] using this

theorem Sound.getD {m : Memory} (h : m.Sound) (name : String) :
    ((m.buckets.find? name).getD {}).Sound m.nextVersion := by
  cases hf : m.buckets.find? name with
  | none => exact Bucket.sound_new _ _ _
  | some b => exact h name b hf

theorem Sound.put {m : Memory} (h : m.Sound) (name key : String) (data : ByteArray) :
    (m.put name key data).2.Sound := by
  unfold Memory.put
  cases hf : m.buckets.find? name with
  | none => exact h
  | some b =>
    have hb := h name b hf
    have holder : SoundVersions m.nextVersion b.versioned
        (if b.versioned then b.versionsOf key else []) := by
      split
      · exact hb.versions key
      · exact .nil
    exact h.push name key hb (some data) holder fun hv => by simp [hv]

theorem Sound.delete {m : Memory} (h : m.Sound) (name : String) (ref : ObjectRef) :
    (m.delete name ref).2.Sound := by
  unfold Memory.delete
  split
  · exact h
  cases hf : m.buckets.find? name with
  | none => exact h
  | some b =>
    have hb := h name b hf
    have hle := Nat.le_refl m.nextVersion
    obtain ⟨key, version⟩ := ref
    cases version with
    | some id =>
      simp only
      split
      · exact h
      · exact h.setBucket hle name
          (hb.setVersions hle key ((hb.versions key).sublist List.filter_sublist))
    | none =>
      simp only
      split
      next hv => exact h.push name key hb none (hb.versions key) (by simp [hv])
      next hv => exact h.setBucket hle name (hb.setVersions hle key .nil)

theorem deleteAll_cons_snd (m : Memory) (name : String) (ref : ObjectRef) (rest : List ObjectRef) :
    (m.deleteAll name (ref :: rest)).2 = ((m.delete name ref).2.deleteAll name rest).2 := by
  simp only [Memory.deleteAll]
  split <;> rfl

theorem Sound.deleteAll {m : Memory} (h : m.Sound) (name : String) (refs : List ObjectRef) :
    (m.deleteAll name refs).2.Sound := by
  induction refs generalizing m with
  | nil => exact h
  | cons ref rest ih =>
    rw [deleteAll_cons_snd]
    exact ih (h.delete name ref)

theorem Sound.bulkRequest {m : Memory} (h : m.Sound) (name : String) (batch : List ObjectRef) :
    (m.bulkRequest name batch).2.Sound := by
  have hm : ({ m with counters :=
      { m.counters with bulkRequests := m.counters.bulkRequests + 1 } } : Memory).Sound := h
  unfold Memory.bulkRequest
  simp only
  split
  · exact hm.deleteAll name batch
  · exact hm
  · exact hm

theorem Sound.list {m : Memory} (h : m.Sound) (name scope : String) : (m.list name scope).2.Sound := by
  unfold Memory.list Memory.takeListingFault
  simp only
  split <;> split <;> simp_all <;> exact h

theorem Sound.removeBucket {m : Memory} (h : m.Sound) (name : String) :
    (m.removeBucket name).2.Sound := by
  unfold Memory.removeBucket
  simp only
  split
  · exact h
  · split
    · intro n b hb
      by_cases hn : name = n
      · subst hn; simp at hb
      · exact h n b (by simpa [KeyMap.find?_erase_of_ne _ hn] using hb)
    · exact h

theorem Sound.makeBucket {m : Memory} (h : m.Sound) (name region : String) :
    (m.makeBucket name region).2.Sound := by
  unfold Memory.makeBucket
  split
  · exact h
  · exact h.setBucket (Nat.le_refl _) name (Bucket.sound_new _ _ _)

theorem Sound.seed {m : Memory} (h : m.Sound) (name : String) (keys : List String) :
    (m.seed name keys).Sound := by
  have hm := h.setBucket (Nat.le_refl _) name (h.getD name)
  unfold Memory.seed
  simp only
  generalize m.setBucket name ((m.buckets.find? name).getD {}) = m' at hm ⊢
  change m'.Sound at hm
  clear h
  induction keys generalizing m' with
  | nil => exact hm
  | cons key keys ih =>
    refine ih _ ?_
    have := hm.push name key (hm.getD name) (some .empty) .nil (by simp)
    rwa [Bucket.setVersions_eq_insert _ _ (by simp)] at this

/-- The stores that calls, and the arming of faults, can lead to from an empty one. -/
inductive Reachable : Memory → Prop
  | empty : Reachable {}
  | arm {m} (faults : Faults) : Reachable m → Reachable { m with faults }
  | createVersionedBucket {m} (name) : Reachable m → Reachable (m.createVersionedBucket name)
  | seed {m} (name keys) : Reachable m → Reachable (m.seed name keys)
  | makeBucket {m} (name region) : Reachable m → Reachable (m.makeBucket name region).2
  | put {m} (name key data) : Reachable m → Reachable (m.put name key data).2
  | list {m} (name scope) : Reachable m → Reachable (m.list name scope).2
  | bulkRequest {m} (name batch) : Reachable m → Reachable (m.bulkRequest name batch).2
  | startRemoval {m} : Reachable m → Reachable m.startRemoval
  | endRemoval {m} (name ref) : Reachable m → Reachable (m.endRemoval name ref).2
  | removeBucket {m} (name) : Reachable m → Reachable (m.removeBucket name).2

theorem Reachable.sound {m : Memory} (h : m.Reachable) : m.Sound := by
  induction h with
  | empty => intro name b hb; simp at hb
  | arm faults _ ih => exact ih
  | createVersionedBucket name _ ih => exact ih.setBucket (Nat.le_refl _) name (Bucket.sound_new _ _ _)
  | seed name keys _ ih => exact ih.seed name keys
  | makeBucket name region _ ih => exact ih.makeBucket name region
  | put name key data _ ih => exact ih.put name key data
  | list name scope _ ih => exact ih.list name scope
  | bulkRequest name batch _ ih => exact ih.bulkRequest name batch
  | startRemoval _ ih => exact ih
  | endRemoval name ref _ ih => exact ih.delete name ref
  | removeBucket name _ ih => exact ih.removeBucket name

end Memory

end ObjectVolume.Store
