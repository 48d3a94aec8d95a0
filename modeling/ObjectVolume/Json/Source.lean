/-!
# JSON text as it is read

JSON arrives as bytes that need not be UTF-8 throughout. A source is the sequence of the characters
in it, where a byte that belongs to no character stands for itself. Places are counted from the end,
in bytes, so that a reader needs to carry nothing but the rest of the source.

This is how `serde_json` goes through its input, and how it counts the places of errors.
-/
namespace ObjectVolume.Json

/-- A character, or a byte that is not part of one. -/
inductive Glyph where
  | char (c : Char)
  | stray (b : UInt8)
  deriving DecidableEq, Repr

/-- Length in bytes. -/
def Glyph.size : Glyph → Nat
  | char c => c.utf8Size
  | stray _ => 1

abbrev Source := List Glyph

/-- What is left after a step that has read at least one glyph of `s`. -/
abbrev Shorter (s : Source) := { r : Source // r.length < s.length }

/-- What is left after a step that may have read nothing of `s`. -/
abbrev Upto (s : Source) := { r : Source // r.length ≤ s.length }

namespace Source

/-- The glyphs of `b` from index `i` on. -/
def ofBytesFrom (b : ByteArray) (i : Nat) : Source :=
  if h : i < b.size then
    match b.utf8DecodeChar? i with
    | some c => .char c :: ofBytesFrom b (i + c.utf8Size)
    | none => .stray b[i] :: ofBytesFrom b (i + 1)
  else []
termination_by b.size - i
decreasing_by
  · have := c.utf8Size_pos
    omega
  · omega

def ofBytes (b : ByteArray) : Source :=
  ofBytesFrom b 0

def ofString (s : String) : Source :=
  s.toList.map .char

/-- Length in bytes. -/
def size : Source → Nat
  | [] => 0
  | g :: r => g.size + size r

/-! ## What is left -/

theorem shorter_trans {s r t : Source} (h : r.length < s.length) (h₁ : t.length < r.length) :
    t.length < s.length :=
  Nat.lt_trans h₁ h

theorem shorter_of_upto {s r t : Source} (h : r.length < s.length) (h₁ : t.length ≤ r.length) :
    t.length < s.length :=
  Nat.lt_of_le_of_lt h₁ h

theorem shorter_of_cons {s r t : Source} {g : Glyph} (h : r.length < s.length)
    (h₁ : t.length < (g :: r).length) : t.length < s.length :=
  Nat.lt_of_lt_of_le h₁ h

theorem lt_of_upto {s r t : Source} (h : r.length ≤ s.length) (h₁ : t.length < r.length) :
    t.length < s.length :=
  Nat.lt_of_lt_of_le h₁ h

theorem upto_of_shorter {s r t : Source} (h : r.length < s.length) (h₁ : t.length ≤ r.length) :
    t.length ≤ s.length :=
  Nat.le_trans h₁ (Nat.le_of_lt h)

/-! ## Blanks -/

/-- The four blanks that JSON allows between tokens. -/
def isBlank (g : Glyph) : Bool :=
  g == .char ' ' || g == .char '\n' || g == .char '\t' || g == .char '\r'

def skipBlank (s : Source) : Source :=
  s.dropWhile isBlank

theorem length_skipBlank_le (s : Source) : (skipBlank s).length ≤ s.length :=
  (List.dropWhile_suffix _).length_le

/-- What follows the first glyph after the blanks is shorter than the whole. -/
theorem length_lt_of_skipBlank {s r : Source} {g : Glyph} (h : skipBlank s = g :: r) :
    r.length < s.length := by
  have := length_skipBlank_le s
  simp only [h, List.length_cons] at this
  omega

/-- The first glyph after the blanks, and what follows it. -/
def next? (s : Source) : Option (Glyph × Shorter s) :=
  match h : s.skipBlank with
  | [] => none
  | g :: r => some (g, ⟨r, length_lt_of_skipBlank h⟩)

/-! ## Places -/

/-- One entry for each byte: whether it ends a line. -/
def lineEnds (s : Source) : List Bool :=
  s.flatMap fun g => List.replicate g.size (g == .char '\n')

end Source

/-- Lines count from one; a column is the number of bytes before it in its line. -/
structure Position where
  line : Nat
  column : Nat
  deriving DecidableEq, Repr

/-- The place in `s` that has `left` bytes after it. -/
def Position.locate (s : Source) (left : Nat) : Position :=
  let before := (s.lineEnds).take (s.size - left)
  ⟨1 + before.count true, (before.reverse.takeWhile (· == false)).length⟩

end ObjectVolume.Json
