/-!
# Double-precision numbers

Finite doubles in exact integer arithmetic: rounding a quotient, multiplying, dividing, and scaling
by powers of ten the way a decimal numeral is read.

`Magnitude.scale` rounds where `serde_json` does when it reads a number.
-/
namespace ObjectVolume.Decimal

/-- A finite double without its sign: `significand · 2 ^ exponent`. Results of `round` have
`significand < 2 ^ 53` and `exponent ≥ -1074`. -/
structure Magnitude where
  significand : Nat
  exponent : Int
  deriving DecidableEq, Repr

/-- A finite double. Zero has a sign too. -/
structure Binary64 where
  negative : Bool
  magnitude : Magnitude
  deriving DecidableEq, Repr

/-- `num / den` to the nearest integer, halves to the even one. -/
def roundDiv (num den : Nat) : Nat :=
  let quotient := num / den
  let twice := 2 * (num % den)
  if twice < den ∨ (twice = den ∧ quotient % 2 = 0) then quotient else quotient + 1

namespace Magnitude

def zero : Magnitude := ⟨0, -1074⟩

def isZero (x : Magnitude) : Bool :=
  x.significand == 0

/-- Nearest integer to `num / den · 2 ^ -exponent`. -/
def roundAt (num den : Nat) (exponent : Int) : Nat :=
  roundDiv (num * Nat.pow 2 (-exponent).toNat) (den * Nat.pow 2 exponent.toNat)

/-- The double nearest to `num / den`; none if that lies beyond the largest one. -/
def round (num den : Nat) : Option Magnitude :=
  if num = 0 then some zero
  else
    let guess : Int := num.log2 - den.log2 - 52
    let low := num * Nat.pow 2 (-guess).toNat < Nat.pow 2 52 * (den * Nat.pow 2 guess.toNat)
    let exponent := max (-1074) (if low then guess - 1 else guess)
    let rounded := roundAt num den exponent
    let (significand, exponent) :=
      if rounded = Nat.pow 2 53 then (Nat.pow 2 52, exponent + 1) else (rounded, exponent)
    if exponent > 971 then none else some ⟨significand, exponent⟩

def ofNat (n : Nat) : Option Magnitude :=
  round n 1

/-- Numerator and denominator of the value. -/
def ratio (x : Magnitude) : Nat × Nat :=
  (x.significand * Nat.pow 2 x.exponent.toNat, Nat.pow 2 (-x.exponent).toNat)

/-- The rounded product. -/
def mul (x y : Magnitude) : Option Magnitude :=
  round (x.ratio.1 * y.ratio.1) (x.ratio.2 * y.ratio.2)

/-- The rounded quotient; `y` is not zero. -/
def div (x y : Magnitude) : Option Magnitude :=
  round (x.ratio.1 * y.ratio.2) (x.ratio.2 * y.ratio.1)

/-- The double nearest to `10 ^ n`, for `n ≤ 308`. -/
def powerOfTen (n : Nat) : Magnitude :=
  (ofNat (Nat.pow 10 n)).getD zero

/-- The largest power of ten among the doubles, `10 ^ 308`. -/
def largestPower : Magnitude :=
  powerOfTen 308

/-- `x · 10 ^ exponent`, rounded after every step: one step reaches 308 decimal places, and smaller
numbers are divided by `10 ^ 308` until they come within reach or vanish. None if the result is too
large. -/
def scale (x : Magnitude) (exponent : Int) : Option Magnitude :=
  if exponent.natAbs ≤ 308 then
    if exponent ≥ 0 then x.mul (powerOfTen exponent.toNat)
    else x.div (powerOfTen exponent.natAbs)
  else if x.isZero then some x
  else if exponent ≥ 0 then none
  else (x.div largestPower).bind fun y => y.scale (exponent + 308)
termination_by exponent.natAbs
decreasing_by omega

end Magnitude

end ObjectVolume.Decimal
