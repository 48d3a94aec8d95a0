import ObjectVolume.Store.KeyMap
/-!
# Maps with ordered keys: look-up, equality and ranges

Two maps are equal if they look up the same (`ext_find?`), and a range scan finds exactly the entries
whose keys start with the text that it was given (`withPrefix_eq_filter`).
-/
namespace ObjectVolume.Store.KeyMap

variable {α : Type}

/-! ## Look-up -/

theorem find?_eq_some_iff {m : KeyMap α} {k : String} {v : α} :
    m.find? k = some v ↔ (k, v) ∈ m.entries := by
  obtain ⟨l, hl⟩ := m
  simp only [find?]
  induction l with
  | nil => simp
  | cons e r ih =>
    obtain ⟨he, hr⟩ := List.pairwise_cons.1 hl
    by_cases hk : e.1 = k
    · subst hk
      have hnone : ∀ w, (e.1, w) ∉ r := fun w hw => String.lt_irrefl _ (he (e.1, w) hw)
      simp [hnone, Prod.ext_iff, eq_comm]
    · have hne : (k, v) ≠ e := fun h => hk (h ▸ rfl)
      rw [List.find?_cons_of_neg (by simpa using hk), ih hr, List.mem_cons]
      simp [hne]

theorem find?_eq_none_iff {m : KeyMap α} {k : String} :
    m.find? k = none ↔ ∀ v, (k, v) ∉ m.entries := by
  rw [Option.eq_none_iff_forall_ne_some]
  exact forall_congr' fun v => not_congr find?_eq_some_iff

theorem nodup_entries (m : KeyMap α) : m.entries.Nodup := by
  refine m.sorted.imp ?_
  intro a b hab heq
  rw [heq] at hab
  exact String.lt_irrefl _ hab

/-- Maps that look up the same are equal: the order of the entries leaves no choice. -/
theorem ext_find? {m n : KeyMap α} (h : ∀ k, m.find? k = n.find? k) : m = n := by
  have hmem : ∀ e, e ∈ m.entries ↔ e ∈ n.entries := fun e => by
    rw [← find?_eq_some_iff (k := e.1) (v := e.2), h, find?_eq_some_iff]
  have hperm := (List.perm_ext_iff_of_nodup m.nodup_entries n.nodup_entries).2 hmem
  refine KeyMap.ext (List.Perm.eq_of_pairwise (fun a b _ _ hab hba => ?_) m.sorted n.sorted hperm)
  exact absurd (String.lt_trans hab hba) (String.lt_irrefl _)

/-- A key has one entry, or none. -/
theorem filter_key (m : KeyMap α) (k : String) :
    m.entries.filter (fun e => decide (e.1 = k)) = (m.find? k).toList.map (k, ·) := by
  obtain ⟨l, hl⟩ := m
  simp only [find?]
  induction l with
  | nil => rfl
  | cons e r ih =>
    obtain ⟨he, hr⟩ := List.pairwise_cons.1 hl
    by_cases hk : e.1 = k
    · subst hk
      have hnone : r.filter (fun x => decide (x.1 = e.1)) = [] := by
        refine List.filter_eq_nil_iff.2 fun x hx hkey => ?_
        have hlt := he x hx
        rw [of_decide_eq_true hkey] at hlt
        exact String.lt_irrefl _ hlt
      rw [List.filter_cons_of_pos (by simp), hnone, List.find?_cons_of_pos (by simp)]
      rfl
    · rw [List.filter_cons_of_neg (by simpa using hk), List.find?_cons_of_neg (by simpa using hk)]
      exact ih hr

@[simp]
theorem find?_empty (k : String) : (empty : KeyMap α).find? k = none := rfl

theorem find?_insertEntry (k j : String) (v : α) (l : List (String × α)) :
    ((insertEntry k v l).find? (·.1 == j)).map (·.2) =
      if k = j then some v else (l.find? (·.1 == j)).map (·.2) := by
  induction l with
  | nil => by_cases h : k = j <;> simp [insertEntry, h]
  | cons e r ih =>
    simp only [insertEntry]
    split
    · by_cases h : k = j <;> simp [h]
    · split
      next heq => subst heq; by_cases h : e.1 = j <;> simp [h]
      next hne =>
        by_cases he : e.1 = j
        · have hkj : k ≠ j := fun h => hne (h.trans he.symm)
          simp [he, hkj]
        · rw [List.find?_cons_of_neg (by simpa using he), ih,
            List.find?_cons_of_neg (by simpa using he)]

@[simp]
theorem find?_insert_self (m : KeyMap α) (k : String) (v : α) : (m.insert k v).find? k = some v := by
  simp [find?, insert, find?_insertEntry]

theorem find?_insert_of_ne (m : KeyMap α) {k j : String} (v : α) (h : k ≠ j) :
    (m.insert k v).find? j = m.find? j := by
  simp [find?, insert, find?_insertEntry, h]

@[simp]
theorem find?_erase_self (m : KeyMap α) (k : String) : (m.erase k).find? k = none := by
  refine find?_eq_none_iff.2 fun v hv => ?_
  simpa [erase] using (List.mem_filter.1 hv).2

theorem find?_erase_of_ne (m : KeyMap α) {k j : String} (h : k ≠ j) :
    (m.erase k).find? j = m.find? j := by
  have hmem : ∀ v, (j, v) ∈ (m.erase k).entries ↔ (j, v) ∈ m.entries := fun v => by
    simp [erase, Ne.symm h]
  apply Option.ext
  intro v
  rw [find?_eq_some_iff, find?_eq_some_iff, hmem v]

theorem insert_find? {m : KeyMap α} {k : String} {v : α} (h : m.find? k = some v) :
    m.insert k v = m := by
  apply ext_find?
  intro j
  by_cases hj : k = j
  · subst hj; rw [find?_insert_self, h]
  · exact find?_insert_of_ne m v hj

theorem insert_insert (m : KeyMap α) (k : String) (v w : α) :
    (m.insert k v).insert k w = m.insert k w := by
  apply ext_find?
  intro j
  by_cases hj : k = j
  · subst hj; simp
  · simp [find?_insert_of_ne, hj]

theorem erase_insert (m : KeyMap α) (k : String) (v : α) : (m.insert k v).erase k = m.erase k := by
  apply ext_find?
  intro j
  by_cases hj : k = j
  · subst hj; simp
  · simp [find?_insert_of_ne, find?_erase_of_ne, hj]

theorem isEmpty_iff {m : KeyMap α} : m.isEmpty = true ↔ ∀ k, m.find? k = none := by
  constructor
  · intro h k
    simp [isEmpty] at h
    simp [find?, h]
  · intro h
    have : m = empty := ext_find? fun k => by rw [h k, find?_empty]
    rw [this]; rfl

/-! ## One entry and all others -/

/-- An entry can be taken out of a map, and the others stay. -/
theorem values_perm_of_find? {m : KeyMap α} {k : String} {v : α} (h : m.find? k = some v) :
    m.values.Perm (v :: (m.erase k).values) := by
  have hmem : (k, v) ∉ (m.erase k).entries := find?_eq_none_iff.1 (find?_erase_self m k) v
  have hentries : m.entries.Perm ((k, v) :: (m.erase k).entries) := by
    refine (List.perm_ext_iff_of_nodup m.nodup_entries
      (List.nodup_cons.2 ⟨hmem, (m.erase k).nodup_entries⟩)).2 ?_
    intro e
    rw [List.mem_cons, ← find?_eq_some_iff (k := e.1) (v := e.2),
      ← find?_eq_some_iff (m := m.erase k) (k := e.1) (v := e.2)]
    by_cases hk : k = e.1
    · subst hk
      simp [h, Prod.ext_iff, eq_comm]
    · rw [find?_erase_of_ne m hk]
      simp [Prod.ext_iff, Ne.symm hk]
  exact hentries.map (·.2)

theorem values_insert_perm (m : KeyMap α) (k : String) (v : α) :
    (m.insert k v).values.Perm (v :: (m.erase k).values) := by
  have h := values_perm_of_find? (find?_insert_self m k v)
  rwa [erase_insert] at h

theorem erase_eq_self {m : KeyMap α} {k : String} (h : m.find? k = none) : m.erase k = m := by
  apply ext_find?
  intro j
  by_cases hj : k = j
  · subst hj; rw [find?_erase_self, h]
  · exact find?_erase_of_ne m hj

/-! ## Changing every entry -/

/-- The map with each value changed by `f`, which may also drop the entry. -/
def restrict (f : String → α → Option α) (m : KeyMap α) : KeyMap α where
  entries := m.entries.filterMap fun e => (f e.1 e.2).map (e.1, ·)
  sorted := m.sorted.filterMap _ fun a a' haa' b hb b' hb' => by
    obtain ⟨_, _, rfl⟩ := Option.map_eq_some_iff.1 hb
    obtain ⟨_, _, rfl⟩ := Option.map_eq_some_iff.1 hb'
    exact haa'

theorem find?_restrict (f : String → α → Option α) (m : KeyMap α) (k : String) :
    (m.restrict f).find? k = (m.find? k).bind (f k) := by
  apply Option.ext
  intro v
  rw [find?_eq_some_iff]
  simp only [restrict, List.mem_filterMap, Option.map_eq_some_iff, Prod.mk.injEq, Option.bind_eq_some_iff]
  constructor
  · rintro ⟨e, he, w, hw, rfl, rfl⟩
    exact ⟨e.2, find?_eq_some_iff.2 he, hw⟩
  · rintro ⟨w, hw, hv⟩
    exact ⟨(k, w), find?_eq_some_iff.1 hw, v, hv, rfl, rfl⟩

/-! ## Ranges -/

/-- A text between `p` and one that starts with `p` starts with `p`. -/
theorem prefix_of_between {p : List Char} : ∀ {a b : List Char}, ¬ a < p → a < b → p <+: b → p <+: a := by
  induction p with
  | nil => intros; exact List.nil_prefix
  | cons c p ih =>
    intro a b hpa hab hb
    obtain ⟨t, rfl⟩ := hb
    cases a with
    | nil => exact absurd (List.nil_lt_cons c p) hpa
    | cons d a =>
      simp only [List.cons_append, List.cons_lt_cons_iff, not_or, not_and] at hpa hab
      rcases hab with hdc | ⟨rfl, hab⟩
      · exact absurd hdc hpa.1
      · exact List.cons_prefix_cons.2 ⟨rfl, ih (hpa.2 rfl) hab ⟨t, rfl⟩⟩

theorem not_lt_of_prefix {p a : String} (h : p.toList <+: a.toList) : ¬ a < p :=
  fun hlt => List.not_lt.2 h.le (String.lt_iff.1 hlt)

/-- The key starts with a text. -/
def startsWith (start : String) (e : String × α) : Bool :=
  start.toList.isPrefixOf e.1.toList

theorem startsWith_iff {start : String} {e : String × α} :
    startsWith start e = true ↔ start.toList <+: e.1.toList := by
  simp [startsWith]

/-- Once the keys are not below `start`, those that start with it come first. -/
theorem takeWhile_eq_filter {start : String} : ∀ {l : List (String × α)},
    l.Pairwise (fun a b => a.1 < b.1) → (∀ e ∈ l, ¬ e.1 < start) →
      l.takeWhile (startsWith start) = l.filter (startsWith start)
  | [], _, _ => rfl
  | e :: r, hl, hge => by
    obtain ⟨he, hr⟩ := List.pairwise_cons.1 hl
    by_cases hp : startsWith start e = true
    · rw [List.takeWhile_cons_of_pos hp, List.filter_cons_of_pos hp,
        takeWhile_eq_filter hr fun x hx => hge x (List.mem_cons_of_mem _ hx)]
    · have hnone : ∀ x ∈ r, ¬ startsWith start x = true := fun x hx hpx =>
        hp (startsWith_iff.2 (prefix_of_between
          (fun hlt => hge e List.mem_cons_self (String.lt_iff.2 hlt))
          (String.lt_iff.1 (he x hx)) (startsWith_iff.1 hpx)))
      rw [List.takeWhile_cons_of_neg hp, List.filter_cons_of_neg hp, List.filter_eq_nil_iff.2 hnone]

/-- **Ranges.** The scan from `start` on finds the entries whose keys start with it, and all of them. -/
theorem withPrefix_eq_filter (m : KeyMap α) (start : String) :
    m.withPrefix start = m.entries.filter (startsWith start) := by
  obtain ⟨l, hl⟩ := m
  change (l.dropWhile (·.1 < start)).takeWhile (startsWith start) = l.filter (startsWith start)
  induction l with
  | nil => rfl
  | cons e r ih =>
    obtain ⟨he, hr⟩ := List.pairwise_cons.1 hl
    by_cases hlt : e.1 < start
    · have hp : ¬ startsWith start e = true := fun hp => not_lt_of_prefix (startsWith_iff.1 hp) hlt
      rw [List.dropWhile_cons_of_pos (by simpa using hlt), List.filter_cons_of_neg hp, ih hr]
    · rw [List.dropWhile_cons_of_neg (by simpa using hlt)]
      refine takeWhile_eq_filter hl ?_
      intro x hx
      rcases List.mem_cons.1 hx with rfl | hx
      · exact hlt
      · exact fun hxs => hlt (String.lt_trans (he x hx) hxs)

end ObjectVolume.Store.KeyMap
