import ObjectVolume.Text.Composed
import ObjectVolume.Text.Direction
import ObjectVolume.Text.Joining
import ObjectVolume.Text.Marks
import ObjectVolume.Url.Idna.MappingTable
import ObjectVolume.Url.Idna.Punycode
/-!
# Labels

The parts of a domain name between its dots. Names that differ in case, in width or in the like of it are
the same, and are made equal before they are looked at. A label is written in ASCII: as it is, or after a
tag in Punycode. Beyond ASCII not every text is a label.

This is how `idna`, which the `url` library calls for hosts, checks and encodes a label.
-/
namespace ObjectVolume.Url.Idna

open Text (Direction Joining)

/-! ## The mapping of domain names -/

def isAlternating (n : Nat) : Bool :=
  alternating.ranges.any fun (low, high) => low ≤ n && n ≤ high && (n - low) % 2 == 0

/-- What a character of a domain name becomes; none if no name holds it. -/
def mapped? (c : Char) : Option (List Char) :=
  let n := c.toNat
  if n < 0x80 then some [c.toLower]
  else if refused.contains c then none
  else if ignored.contains c then some []
  else if isAlternating n then some [.ofNat (n + 1)]
  else
    match shifts.findSome? (·.image? n) with
    | some m => some [.ofNat m]
    | none => some ((replacements.findSome? (·.find? n)).getD [c])

/-- The mapping leaves the character as it is. -/
def isMapped (c : Char) : Bool :=
  mapped? c == some [c]

/-- ASCII characters that no host name holds. -/
def isForbidden (c : Char) : Bool :=
  c.toNat ≤ 0x20 || c.toNat == 0x7f ||
    ['%', '#', '/', ':', '<', '>', '?', '@', '[', '\\', ']', '^', '|'].contains c

/-! ## Labels -/

/-- A label as it is read, and as it is written in a name. -/
structure Label where
  shown : List Char
  written : List Char
  deriving DecidableEq

namespace Label

/-! ## Which texts are labels -/

/-- The next letter, seen through transparent marks, joins as asked. -/
def reaches (joins : Joining → Bool) : List Char → Bool
  | [] => false
  | c :: r =>
    match Joining.ofChar c with
    | .transparent => reaches joins r
    | j => joins j

/-- A joiner may stand after a mark that suppresses a vowel, and one that keeps letters apart also
between letters that would join. `before` is in reverse. -/
def acceptsJoiner (before : List Char) (joiner : Char) (after : List Char) : Bool :=
  match before with
  | [] => false
  | c :: _ =>
    Text.combiningClass c == Text.viramaClass ||
      joiner == '\u200c' &&
        reaches (fun j => j = .onward || j = .both) before &&
        reaches (fun j => j = .backward || j = .both) after

/-- All joiners stand where they may. -/
def joinersAccepted (before : List Char) : List Char → Bool
  | [] => true
  | c :: r =>
    (if c == '\u200c' || c == '\u200d' then acceptsJoiner before c r else true) &&
      joinersAccepted (c :: before) r

/-- A label starts with no mark, and its joiners stand where they may. -/
def isAccepted (cs : List Char) : Bool :=
  !(cs.head?.any Text.isMark) && joinersAccepted [] cs

/-! ## Reading labels -/

/-- What labels in Punycode start with. -/
def tag : List Char := ['x', 'n', '-', '-']

/-- Longest text that is written in Punycode. -/
def maxShown : Nat := 1000

/-- Longest Punycode that is read. -/
def maxPunycode : Nat := 2000

/-- The label of a text in Punycode. That has to write what the mapping and composing leave as it
is. -/
def ofPunycode? (cs : List Char) : Option Label := do
  if cs.getLast? = some '-' ∨ cs.length > maxPunycode then none
  else
    let shown ← Punycode.decode cs
    if !shown.isEmpty ∧ shown.all isMapped ∧ Text.composed shown = shown ∧ isAccepted shown then
      some ⟨shown, tag ++ cs⟩
    else none

/-- The label of a text that has been mapped and composed. -/
def ofText? (cs : List Char) : Option Label :=
  if tag.isPrefixOf cs then ofPunycode? (cs.drop tag.length)
  else if cs.all Punycode.isAscii then some ⟨cs, cs⟩
  else if isAccepted cs ∧ cs.length ≤ maxShown then some ⟨cs, tag ++ Punycode.encode cs⟩
  else none

/-! ## Mixed directions -/

/-- The last direction before marks that take no room. -/
def lastDirection (ds : List Direction) : Direction :=
  ((ds.reverse.dropWhile (· = .nonspacing)).head?).getD .nonspacing

/-- The label runs from left to right, or from right to left, and shows so by its first character. -/
def hasOneDirection (l : Label) : Bool :=
  let ds := l.shown.map Direction.ofChar
  match ds with
  | [] => true
  | .leftToRight :: _ =>
    [.leftToRight, .europeanNumber].contains (lastDirection ds) &&
      ds.all fun d => !d.isRightToLeft
  | .rightToLeft :: _ | .arabic :: _ =>
    [.rightToLeft, .arabic, .europeanNumber, .arabicNumber].contains (lastDirection ds) &&
      ds.all (· != .leftToRight) &&
      !(ds.contains .europeanNumber && ds.contains .arabicNumber)
  | _ => false

def isRightToLeft (l : Label) : Bool :=
  l.shown.any fun c => (Direction.ofChar c).isRightToLeft

end Label

end ObjectVolume.Url.Idna
