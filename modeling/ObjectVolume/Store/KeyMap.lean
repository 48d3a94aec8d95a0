/-!
# Maps with ordered keys

Finite maps from texts, kept as a list in ascending order of the keys, so that equal contents are
equal maps. Texts are ordered by code points, which is also the order of their bytes.

| here | there |
| --- | --- |
| `KeyMap` | the maps of buckets and objects in `MemoryStore` |
| `withPrefix` | the scan of `MemoryStore.snapshot` |
-/
namespace ObjectVolume.Store

/-- A map from texts, as its entries in ascending order of the keys. -/
structure KeyMap (α : Type) where
  entries : List (String × α)
  sorted : entries.Pairwise (fun a b => a.1 < b.1)

namespace KeyMap

variable {α : Type}

def empty : KeyMap α := ⟨[], .nil⟩

instance : Inhabited (KeyMap α) := ⟨empty⟩

@[ext]
theorem ext {m n : KeyMap α} (h : m.entries = n.entries) : m = n := by
  cases m; cases n; cases h; rfl

def find? (m : KeyMap α) (k : String) : Option α :=
  (m.entries.find? (·.1 == k)).map (·.2)

def contains (m : KeyMap α) (k : String) : Bool :=
  (m.find? k).isSome

def isEmpty (m : KeyMap α) : Bool :=
  m.entries.isEmpty

def keys (m : KeyMap α) : List String :=
  m.entries.map (·.1)

def values (m : KeyMap α) : List α :=
  m.entries.map (·.2)

/-! ## Insertion -/

/-- Puts an entry in its place, instead of an entry with the same key. -/
def insertEntry (k : String) (v : α) : List (String × α) → List (String × α)
  | [] => [(k, v)]
  | e :: r =>
    if k < e.1 then (k, v) :: e :: r
    else if k = e.1 then (k, v) :: r
    else e :: insertEntry k v r

theorem mem_insertEntry {k : String} {v : α} {l : List (String × α)} {x : String × α}
    (h : x ∈ insertEntry k v l) : x = (k, v) ∨ x ∈ l := by
  induction l with
  | nil => simpa [insertEntry] using h
  | cons e r ih =>
    simp only [insertEntry] at h
    split at h
    · simpa using h
    · split at h
      · rcases List.mem_cons.1 h with h | h
        · exact .inl h
        · exact .inr (List.mem_cons_of_mem _ h)
      · rcases List.mem_cons.1 h with h | h
        · exact .inr (h ▸ List.mem_cons_self)
        · exact (ih h).imp id (List.mem_cons_of_mem _)

theorem sorted_insertEntry {k : String} {v : α} {l : List (String × α)}
    (h : l.Pairwise (fun a b => a.1 < b.1)) :
    (insertEntry k v l).Pairwise (fun a b => a.1 < b.1) := by
  induction l with
  | nil => simp [insertEntry]
  | cons e r ih =>
    obtain ⟨he, hr⟩ := List.pairwise_cons.1 h
    simp only [insertEntry]
    split
    next hlt =>
      refine List.pairwise_cons.2 ⟨fun x hx => ?_, h⟩
      rcases List.mem_cons.1 hx with rfl | hx
      · exact hlt
      · exact String.lt_trans hlt (he x hx)
    next hge =>
      split
      next heq => exact List.pairwise_cons.2 ⟨fun x hx => heq ▸ he x hx, hr⟩
      next hne =>
        refine List.pairwise_cons.2 ⟨fun x hx => ?_, ih hr⟩
        rcases mem_insertEntry hx with rfl | hx
        · exact String.not_le.1 fun hle =>
            hne (String.le_antisymm hle (String.not_lt.1 hge))
        · exact he x hx

def insert (m : KeyMap α) (k : String) (v : α) : KeyMap α :=
  ⟨insertEntry k v m.entries, sorted_insertEntry m.sorted⟩

/-! ## Removal -/

def erase (m : KeyMap α) (k : String) : KeyMap α :=
  ⟨m.entries.filter (·.1 != k), m.sorted.filter _⟩

/-! ## Ranges -/

/-- The entries whose keys start with a text: a scan from the first key that is not below it, which
ends at the first key that does not start with it. -/
def withPrefix (m : KeyMap α) (start : String) : List (String × α) :=
  (m.entries.dropWhile (·.1 < start)).takeWhile fun e =>
    start.toList.isPrefixOf e.1.toList

end KeyMap

end ObjectVolume.Store
