import ObjectVolume.Text.CombiningClass
import ObjectVolume.Text.Composites
/-!
# The composed form of a text

Texts that look the same have the same composed form: composites are taken apart, marks are brought
into the order of their classes, and whatever makes a composite is put together again.
-/
namespace ObjectVolume.Text

/-- No character is made of more than four others. -/
def maxParts : Nat := 4

/-- What a character stands for. `n` bounds how often it is taken apart. -/
def parts : Nat → Char → List Char
  | 0, c => [c]
  | n + 1, c =>
    match decompose? c with
    | none => [c]
    | some (a, b) => parts n a ++ [b]

/-- Puts a character in front of an ordered text, or behind marks there that come before it. -/
def placeMark (c : Char) : List Char → List Char
  | [] => [c]
  | d :: r =>
    if 0 < combiningClass d ∧ combiningClass d < combiningClass c then d :: placeMark c r
    else c :: d :: r

/-- Orders the marks after each character by their classes. -/
def orderMarks (cs : List Char) : List Char :=
  cs.foldr placeMark []

/-- Marks in between keep a character away from the one that it would join, unless they are of lower
classes. -/
def isBlocked (marks : List Char) (c : Char) : Bool :=
  match marks.getLast? with
  | none => false
  | some m => combiningClass c ≤ combiningClass m

/-- Joins what follows to `base`, from which `marks` have been kept apart. -/
def joinFrom (base : Char) (marks : List Char) : List Char → List Char
  | [] => base :: marks
  | c :: r =>
    match if isBlocked marks c then none else compose? base c with
    | some joined => joinFrom joined marks r
    | none =>
      if combiningClass c = 0 then base :: marks ++ joinFrom c [] r
      else joinFrom base (marks ++ [c]) r

def composed (cs : List Char) : List Char :=
  match orderMarks (cs.flatMap (parts maxParts)) with
  | [] => []
  | c :: r => joinFrom c [] r

end ObjectVolume.Text
