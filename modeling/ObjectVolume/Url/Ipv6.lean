import ObjectVolume.Url.Ipv4
/-!
# IPv6 addresses

Eight groups of 16 bits, in hexadecimal with colons between them. One run of zero groups may be
written as a double colon, and the last two groups as an IPv4 address.
-/
namespace ObjectVolume.Url.Ipv6

/-- A group of one to four hexadecimal digits. -/
def group? (cs : List Char) : Option Nat :=
  if cs.isEmpty ∨ cs.length > 4 then none else Ipv4.ofDigits 16 cs

/-- A decimal byte without leading zeros. -/
def byte? (cs : List Char) : Option Nat :=
  if cs.isEmpty ∨ (cs.head? = some '0' ∧ cs.length > 1) then none
  else (Ipv4.ofDigits 10 cs).filter (· ≤ 255)

/-- The two groups of a dotted IPv4 address. -/
def dotted? (cs : List Char) : Option (List Nat) := do
  match ← (Ipv4.splitDots cs).mapM byte? with
  | [a, b, c, d] => some [a * 256 + b, c * 256 + d]
  | _ => none

/-- The values of groups; the last one may be dotted if `tail`. -/
def values? (tail : Bool) : List (List Char) → Option (List Nat)
  | [] => some []
  | [last] => if tail ∧ last.contains '.' then dotted? last else (group? last).map ([·])
  | g :: gs => do return (← group? g) :: (← values? tail gs)

/-- The groups of a text between colons. -/
def groups? (tail : Bool) (cs : List Char) : Option (List Nat) :=
  if cs.isEmpty then some [] else values? tail (cs.splitOn ':')

/-- What stands before and after the first double colon. -/
def splitDoubleColon : List Char → Option (List Char × List Char)
  | ':' :: ':' :: r => some ([], r)
  | c :: r => (splitDoubleColon r).map fun (a, b) => (c :: a, b)
  | [] => none

/-- The eight groups of an address. A double colon stands for at least one group. -/
def parse (cs : List Char) : Option (List Nat) :=
  match splitDoubleColon cs with
  | none => (groups? true cs).filter (·.length = 8)
  | some (front, back) => do
    let front ← groups? false front
    let back ← groups? true back
    if front.length + back.length ≤ 7 then
      some (front ++ List.replicate (8 - front.length - back.length) 0 ++ back)
    else none

/-- Start and length of the longest run of zeros from group `i` on, the first of several. -/
def longestRun (i : Nat) : List Nat → Nat × Nat
  | [] => (i, 0)
  | g :: gs =>
    let here := ((g :: gs).takeWhile (· == 0)).length
    let later := longestRun (i + 1) gs
    if here ≥ later.2 then (i, here) else later

def groupsText (gs : List Nat) : String :=
  ":".intercalate (gs.map fun g => String.ofList (Text.hexDigits g))

/-- The longest run of zero groups, unless it is a single one, is written as a double colon. -/
def text (groups : List Nat) : String :=
  let (start, length) := longestRun 0 groups
  if length < 2 then groupsText groups
  else groupsText (groups.take start) ++ "::" ++ groupsText (groups.drop (start + length))

end ObjectVolume.Url.Ipv6
