/-!
# Sets of code points

Character properties are long lists of ranges. They are written as text, in hexadecimal, ranges
separated by blanks and their ends by a hyphen: `0-1f 7f-a0 ad`.
-/
namespace ObjectVolume.Text

/-! ## Hexadecimal digits -/

/-- Value of a digit in either case. -/
def hexValue (c : Char) : Option Nat :=
  if '0' ≤ c ∧ c ≤ '9' then some (c.toNat - '0'.toNat)
  else if 'a' ≤ c ∧ c ≤ 'f' then some (c.toNat - 'a'.toNat + 10)
  else if 'A' ≤ c ∧ c ≤ 'F' then some (c.toNat - 'A'.toNat + 10)
  else none

/-- Digits in lower case, without leading zeros. -/
def hexDigits (n : Nat) : List Char :=
  Nat.toDigits 16 n

/-- The number that digits write; other characters count as zero. -/
def hexNumber (cs : List Char) : Nat :=
  cs.foldl (fun n c => 16 * n + (hexValue c).getD 0) 0

/-! ## Ranges -/

/-- A set of code points: ranges with both ends included. -/
structure Ranges where
  ranges : List (Nat × Nat)

namespace Ranges

def ofWord (w : List Char) : Nat × Nat :=
  let low := w.takeWhile (· != '-')
  match w.dropWhile (· != '-') with
  | _ :: high => (hexNumber low, hexNumber high)
  | [] => (hexNumber low, hexNumber low)

/-- Maximal runs of characters other than the blank. -/
def words (cs : List Char) : List (List Char) :=
  (cs.splitBy fun a b => (a == ' ') == (b == ' ')).filter fun w => w.head? != some ' '

/-- Reads the written form, which may take several lines. -/
def ofLines (lines : List String) : Ranges :=
  ⟨lines.flatMap fun line => (words line.toList).map ofWord⟩

def contains (r : Ranges) (c : Char) : Bool :=
  r.ranges.any fun (low, high) => low ≤ c.toNat && c.toNat ≤ high

end Ranges

example : (Ranges.ofLines ["41-43", "e9"]).ranges = [(0x41, 0x43), (0xe9, 0xe9)] := by decide +kernel

end ObjectVolume.Text
