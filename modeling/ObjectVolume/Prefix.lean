/-!
# Prefixes

A prefix names a directory of a bucket. `vol` and `vol/` name the same one, so every key that
belongs to a prefix is computed from its normal form: `marker_normalize` and `scope_normalize`.

| here | there |
| --- | --- |
| `normalize` | `normalize_prefix` |
| `marker` | `prefix_marker` |
| `scope` | `eviction_scope` |
-/
namespace ObjectVolume

/-- `cs` without the slashes at its end. -/
def dropTrailingSlashes (cs : List Char) : List Char :=
  (cs.reverse.dropWhile (· == '/')).reverse

namespace Prefix

/-- The prefix without trailing slashes. Slashes alone name the root of the bucket. -/
def normalize (p : String) : String :=
  String.ofList (dropTrailingSlashes p.toList)

/-- The prefix names the whole bucket. -/
def isRoot (p : String) : Bool :=
  (normalize p).isEmpty

/-- Key of the object that stands for the directory itself. -/
def marker (p : String) : String :=
  normalize p ++ "/"

/-- What every key below the prefix starts with: nothing for the root, the marker otherwise. -/
def scope (p : String) : String :=
  if isRoot p then "" else marker p

end Prefix

/-! ## Normal forms -/

theorem dropTrailingSlashes_idem (cs : List Char) :
    dropTrailingSlashes (dropTrailingSlashes cs) = dropTrailingSlashes cs := by
  have h : ∀ l : List Char, (l.dropWhile (· == '/')).dropWhile (· == '/') =
      l.dropWhile (· == '/') := by
    intro l
    induction l with
    | nil => rfl
    | cons c r ih =>
      by_cases hc : (c == '/') = true
      · simp only [List.dropWhile_cons, hc, if_true, ih]
      · simp [hc]
  simp [dropTrailingSlashes, h]

@[simp]
theorem Prefix.normalize_normalize (p : String) :
    Prefix.normalize (Prefix.normalize p) = Prefix.normalize p := by
  simp [Prefix.normalize, dropTrailingSlashes_idem]

theorem Prefix.marker_normalize (p : String) :
    Prefix.marker (Prefix.normalize p) = Prefix.marker p := by
  simp [Prefix.marker]

theorem Prefix.scope_normalize (p : String) :
    Prefix.scope (Prefix.normalize p) = Prefix.scope p := by
  simp [Prefix.scope, Prefix.isRoot, Prefix.marker_normalize]

end ObjectVolume
