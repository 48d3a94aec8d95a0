import ObjectVolume.Decimal.Binary64
/-!
# Shortest decimal text of a double

A double is written with the fewest digits that no other double is nearer to; of two such numbers
the nearer one is taken.

Errors of `serde_json` show doubles in this form.
-/
namespace ObjectVolume.Decimal

/-- A decimal number `digits · 10 ^ exponent`. -/
structure Scaled where
  digits : Nat
  exponent : Int
  deriving DecidableEq, Repr

/-- The same number without zeros at the end of its digits. -/
def Scaled.trimmed (d : Scaled) : Scaled :=
  if h : d.digits ≠ 0 ∧ d.digits % 10 = 0 then
    Scaled.trimmed ⟨d.digits / 10, d.exponent + 1⟩
  else d
termination_by d.digits
decreasing_by omega

/-- `a · 10 ^ p` against `b · 2 ^ q`, as two integers in the same order. -/
def crossed (a : Nat) (p : Int) (b : Nat) (q : Int) : Nat × Nat :=
  (a * Nat.pow 10 p.toNat * Nat.pow 2 (-q).toNat, b * Nat.pow 2 q.toNat * Nat.pow 10 (-p).toNat)

namespace Magnitude

/-- Lower and upper end, in quarters of the last place, of the numbers that round to `x`. Below a
power of two the gap is half as wide. -/
def ends (x : Magnitude) : Nat × Nat :=
  let below := if x.significand = Nat.pow 2 52 ∧ x.exponent > -1074 then 1 else 2
  (4 * x.significand - below, 4 * x.significand + 2)

/-- The decimal `d` rounds to `x`; the ends themselves do if `x` is even. -/
def roundsFrom (x : Magnitude) (d : Scaled) : Bool :=
  let (low, high) := x.ends
  let (d₁, low) := crossed d.digits d.exponent low (x.exponent - 2)
  let (d₂, high) := crossed d.digits d.exponent high (x.exponent - 2)
  if x.significand % 2 = 0 then low ≤ d₁ && d₂ ≤ high else low < d₁ && d₂ < high

/-- Distance from `d` to `x`, on a scale that depends on `d.exponent` and `x.exponent` alone. -/
def distance (x : Magnitude) (d : Scaled) : Nat :=
  let (a, b) := crossed d.digits d.exponent x.significand x.exponent
  max a b - min a b

/-- The exponent `k` with `10 ^ k ≤ x < 10 ^ (k + 1)`, for `x` that is not zero. -/
def decimalExponent (x : Magnitude) : Int :=
  let (num, den) := x.ratio
  if num ≥ den then ((Nat.toDigits 10 (num / den)).length : Int) - 1
  else
    let places := ((List.range 400).find? fun j => num * Nat.pow 10 j ≥ den).getD 0
    Int.negOfNat places

/-- The neighbours of `x` among the decimals with exponent `p` that round to it, nearer first. -/
def candidates (x : Magnitude) (p : Int) : List Scaled :=
  let (num, den) := x.ratio
  let floor := (num * Nat.pow 10 (-p).toNat) / (den * Nat.pow 10 p.toNat)
  let below : Scaled := ⟨floor, p⟩
  let above : Scaled := ⟨floor + 1, p⟩
  let nearBelow := x.distance below < x.distance above ∨
    (x.distance below = x.distance above ∧ floor % 2 = 0)
  (if nearBelow then [below, above] else [above, below]).filter x.roundsFrom

/-- The decimal with the fewest digits that rounds to `x`; seventeen digits always do. -/
def shortest (x : Magnitude) : Scaled :=
  if x.isZero then ⟨0, 0⟩
  else
    let top := x.decimalExponent
    let found := (List.range 18).findSome? fun (n : Nat) => (x.candidates (top - n)).head?
    (found.getD ⟨0, 0⟩).trimmed

end Magnitude

/-! ## Layout -/

/-- How a decimal is laid out: positional while the exponent of its first digit lies between the
two bounds, in scientific notation otherwise. -/
structure Layout where
  lowest : Int
  highest : Int

/-- Numbers in messages: positional from `0.00001` up to sixteen integer digits. -/
def Layout.plain : Layout := ⟨-5, 15⟩

def decimalDigits (n : Nat) : List Char :=
  Nat.toDigits 10 n

/-- Digits with the point after the first `point` of them, padded with zeros. -/
def positional (digits : List Char) (point : Int) : List Char :=
  if point ≤ 0 then '0' :: '.' :: List.replicate (-point).toNat '0' ++ digits
  else if digits.length ≤ point.toNat then
    digits ++ List.replicate (point.toNat - digits.length) '0' ++ ['.', '0']
  else digits.take point.toNat ++ '.' :: digits.drop point.toNat

/-- One digit before the point, an exponent with its sign. -/
def scientific (digits : List Char) (exponent : Int) : List Char :=
  digits.take 1 ++ (if digits.length > 1 then '.' :: digits.drop 1 else []) ++
    'e' :: (if exponent < 0 then '-' else '+') :: decimalDigits exponent.natAbs

def Layout.write (l : Layout) (d : Scaled) : List Char :=
  let digits := decimalDigits d.digits
  let top := d.exponent + digits.length - 1
  if l.lowest ≤ top ∧ top ≤ l.highest then positional digits (top + 1) else scientific digits top

/-- Text of a double in messages. -/
def Binary64.text (x : Binary64) : String :=
  let magnitude := Layout.plain.write x.magnitude.shortest
  String.ofList (if x.negative then '-' :: magnitude else magnitude)

end ObjectVolume.Decimal
