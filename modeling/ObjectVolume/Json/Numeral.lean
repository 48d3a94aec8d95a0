import ObjectVolume.Json.Problem
/-!
# Reading JSON numbers

A numeral is first taken apart into its digits and then evaluated. It is an integer if it has
neither a fraction nor an exponent and fits in 64 bits, and a double otherwise. As many digits as
fit in 64 bits take part; those after them only scale.

This is how `serde_json` reads numbers, as many digits as they may have.
-/
namespace ObjectVolume.Json

/-! ## The parts of a numeral -/

/-- The digits of a numeral without its sign. -/
structure Numeral.Parts where
  whole : List Nat
  /-- Digits after the point; none if there is no point. -/
  fraction : List Nat
  /-- Whether the exponent is negative, and its digits. -/
  exponent : Option (Bool × List Nat)

def Glyph.digit? : Glyph → Option Nat
  | char c => if c.isDigit then some (c.toNat - '0'.toNat) else none
  | stray _ => none

/-- The digits at the start of `s`, and what follows them. -/
def spanDigits (s : Source) : List Nat × Upto s :=
  match s with
  | [] => ([], ⟨[], Nat.le_refl _⟩)
  | g :: r =>
    match g.digit? with
    | none => ([], ⟨g :: r, Nat.le_refl _⟩)
    | some d =>
      let (ds, ⟨r₁, h⟩) := spanDigits r
      (d :: ds, ⟨r₁, Nat.le_succ_of_le h⟩)

/-- Reads at least one digit; `atEnd` is the problem if the text ends here. -/
def readDigits (atEnd : Problem) (s : Source) : Read (List Nat) s :=
  match s with
  | [] => .error ⟨atEnd, 0⟩
  | g :: r =>
    match g.digit? with
    | none => .error (.inside .invalidNumber 1 (g :: r))
    | some d =>
      let (ds, ⟨r₁, h⟩) := spanDigits r
      .ok (d :: ds, ⟨r₁, Nat.lt_succ_of_le h⟩)

/-- Reads a fraction, if a point comes next. -/
def readFraction (atEnd : Problem) (s : Source) : Except Failure (List Nat × Upto s) :=
  match s with
  | .char '.' :: r => do
    let (ds, ⟨r₁, h⟩) ← readDigits atEnd r
    return (ds, ⟨r₁, by simp only [List.length_cons]; omega⟩)
  | s => .ok ([], ⟨s, Nat.le_refl _⟩)

/-- Whether a minus sign comes next, and what follows the sign. -/
def readSign (s : Source) : Bool × Upto s :=
  match s with
  | .char '+' :: r => (false, ⟨r, by simp⟩)
  | .char '-' :: r => (true, ⟨r, by simp⟩)
  | s => (false, ⟨s, Nat.le_refl _⟩)

/-- Reads an exponent, if its letter comes next. -/
def readExponent (atEnd : Problem) (s : Source) :
    Except Failure (Option (Bool × List Nat) × Upto s) :=
  match s with
  | .char c :: r =>
    if c = 'e' ∨ c = 'E' then do
      let (down, ⟨r₁, h₁⟩) := readSign r
      let (ds, ⟨r₂, h₂⟩) ← readDigits atEnd r₁
      return (some (down, ds), ⟨r₂, by simp only [List.length_cons]; omega⟩)
    else .ok (none, ⟨.char c :: r, Nat.le_refl _⟩)
  | s => .ok (none, ⟨s, Nat.le_refl _⟩)

/-- Reads a numeral from its first digit on. Of several digits before the point the first one is
not zero. -/
def readParts (atEnd : Problem) (s : Source) : Read Numeral.Parts s := do
  let (whole, ⟨r₁, h₁⟩) ← readDigits atEnd s
  if whole.head? = some 0 ∧ whole.length > 1 then throw (.inside .invalidNumber 2 s)
  let (fraction, ⟨r₂, h₂⟩) ← readFraction atEnd r₁
  let (exponent, ⟨r₃, h₃⟩) ← readExponent atEnd r₂
  return (⟨whole, fraction, exponent⟩, ⟨r₃, by omega⟩)

/-! ## The value of a numeral -/

/-- What a numeral denotes. Minus zero and integers out of range are doubles. -/
inductive Numeral where
  | integer (n : Int)
  | float (x : Decimal.Binary64)

namespace Numeral

def found : Numeral → Found
  | integer n => .integer n
  | float x => .float x

/-- Appends digits to `value` while the result is at most `limit`, and counts those left over. -/
def accumulate (limit value : Nat) : List Nat → Nat × Nat
  | [] => (value, 0)
  | d :: ds =>
    if value * 10 + d ≤ limit then accumulate limit (value * 10 + d) ds
    else (value, ds.length + 1)

/-- Largest significand. -/
def maxSignificand : Nat := UInt64.size - 1

/-- Largest exponent that is read digit by digit. -/
def maxExponent : Nat := UInt32.size / 2 - 1

/-- The double `± significand · 10 ^ exponent`, for a numeral with `left` bytes after it. -/
def ofScientific (negative : Bool) (significand : Nat) (exponent : Int) (left : Nat) :
    Except Failure Numeral :=
  match (Decimal.Magnitude.ofNat significand).bind (·.scale exponent) with
  | some m => .ok (.float ⟨negative, m⟩)
  | none => .error ⟨.numberOutOfRange, left⟩

/-- The numeral of a 64-bit integer; negative ones have 63 bits. -/
def ofInteger (negative : Bool) (n : Nat) : Numeral :=
  if !negative then .integer n
  else if n = 0 ∨ n > UInt64.size / 2 then .float ⟨true, (Decimal.Magnitude.ofNat n).getD .zero⟩
  else .integer (-n)

/-- The value of a numeral with `left` bytes after it. -/
def Parts.value (p : Parts) (negative : Bool) (left : Nat) : Except Failure Numeral :=
  let (whole, dropped) := accumulate maxSignificand 0 p.whole
  if dropped = 0 ∧ p.fraction = [] ∧ p.exponent = none then .ok (ofInteger negative whole)
  else
    let (significand, ignored) := accumulate maxSignificand whole p.fraction
    let scale : Int := dropped - (p.fraction.length - ignored : Nat)
    match p.exponent with
    | none => ofScientific negative significand scale left
    | some (down, ds) =>
      let (exponent, excess) := accumulate maxExponent 0 ds
      if excess = 0 then
        ofScientific negative significand (if down then scale - exponent else scale + exponent) left
      else if significand = 0 ∨ down then .ok (.float ⟨negative, .zero⟩)
      else .error ⟨.numberOutOfRange, left + (excess - 1)⟩

end Numeral

/-- Reads a number from its first digit on. -/
def readNumeral (negative : Bool) (s : Source) : Read Numeral s := do
  let (parts, ⟨r, h⟩) ← readParts (.unexpectedEnd .value) s
  return (← parts.value negative (Source.size r), ⟨r, h⟩)

/-- Passes over a number that nobody looks at, from its first digit on. -/
def skipNumeral (s : Source) : Except Failure (Shorter s) := do
  let (_, r) ← readParts .invalidNumber s
  return r

end ObjectVolume.Json
