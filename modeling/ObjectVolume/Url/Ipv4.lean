import ObjectVolume.Url.Percent
/-!
# IPv4 addresses in host names

A host whose last label is a number is an IPv4 address: up to four numbers, decimal, octal (`0…`) or
hexadecimal (`0x…`), the last of which fills all bytes that are left.
-/
namespace ObjectVolume.Url.Ipv4

/-- The parts of a text between dots. -/
def splitDots (cs : List Char) : List (List Char) :=
  cs.splitOn '.'

/-- Value of digits in a base, if all of them are digits of it. -/
def ofDigits (base : Nat) (cs : List Char) : Option Nat :=
  cs.foldl (fun n c => do
    let d ← Text.hexValue c
    if d < base then return (← n) * base + d else none) (some 0)

/-- The value of a label that is a number. A bare `0x` is zero. -/
def number? (label : List Char) : Option Nat :=
  match label with
  | [] => none
  | '0' :: 'x' :: ds | '0' :: 'X' :: ds => ofDigits 16 ds
  | '0' :: d :: ds => ofDigits 8 (d :: ds)
  | ds => ofDigits 10 ds

/-- The last label, an empty one after the last dot left out. -/
def lastLabel (cs : List Char) : List Char :=
  match (splitDots cs).reverse with
  | [] :: label :: _ => label
  | label :: _ => label
  | [] => []

/-- The host is meant to be an address. -/
def endsInNumber (cs : List Char) : Bool :=
  let label := lastLabel cs
  (!label.isEmpty && label.all Char.isDigit) || (number? label).isSome

/-- The address of a list of numbers, which is four bytes long. -/
def ofNumbers (ns : List Nat) : Option Nat :=
  match ns.reverse with
  | [] => none
  | last :: front =>
    if front.length ≤ 3 ∧ front.all (· ≤ 255) ∧ last < Nat.pow 256 (4 - front.length) then
      some (front.reverse.foldl (fun n b => n * 256 + b) 0 * Nat.pow 256 (4 - front.length) + last)
    else none

def parse (cs : List Char) : Option Nat :=
  let labels := splitDots cs
  let labels := if labels.getLast? = some [] then labels.dropLast else labels
  (labels.mapM number?).bind ofNumbers

/-- Four decimal numbers with dots between them. -/
def text (address : Nat) : String :=
  ".".intercalate
    ([3, 2, 1, 0].map fun i => toString (address / Nat.pow 256 i % 256))

end ObjectVolume.Url.Ipv4
