import ObjectVolume.Json.Source
import ObjectVolume.Decimal.Shortest
import ObjectVolume.Text.Quoted
/-!
# Why a JSON text is refused

A failure is a problem and the place of it. `Failure.message` is the text that readers show.

These are the errors of `serde_json`, and their texts.
-/
namespace ObjectVolume.Json

/-- What the text breaks off in. -/
inductive Construct where
  | value
  | list
  | object
  | string

def Construct.name : Construct → String
  | value => "a value"
  | list => "a list"
  | object => "an object"
  | string => "a string"

/-- What stands where a value of another kind is expected. -/
inductive Found where
  | null
  | boolean (b : Bool)
  | integer (n : Int)
  | float (x : Decimal.Binary64)
  | text (s : String)
  | list
  | object

def Found.describe : Found → String
  | null => "null"
  | boolean b => "boolean `" ++ toString b ++ "`"
  | integer n => "integer `" ++ toString n ++ "`"
  | float x => "floating point `" ++ x.text ++ "`"
  | text s => "string " ++ Text.quote s
  | list => "sequence"
  | object => "map"

inductive Problem where
  | unexpectedEnd (inside : Construct)
  | expectedColon
  | expectedListEnd
  | expectedObjectEnd
  | expectedWord
  | expectedValue
  | invalidEscape
  | invalidNumber
  | numberOutOfRange
  | invalidUnicode
  | controlCharacter
  | keyMustBeText
  | loneSurrogate
  | unfinishedEscape
  | trailingComma
  | trailingCharacters
  /-- A value of the wrong kind. -/
  | wrongKind (found : Found) (expected : String)
  /-- An integer beyond the range of the number that is expected. -/
  | outOfRange (n : Int) (expected : String)
  | missingMember (name : String)
  | repeatedMember (name : String)
  /-- A record written as a list with too few elements. -/
  | tooShort (length : Nat) (expected : String)

def Problem.message : Problem → String
  | unexpectedEnd inside => "EOF while parsing " ++ inside.name
  | expectedColon => "expected `:`"
  | expectedListEnd => "expected `,` or `]`"
  | expectedObjectEnd => "expected `,` or `\x7d`"
  | expectedWord => "expected ident"
  | expectedValue => "expected value"
  | invalidEscape => "invalid escape"
  | invalidNumber => "invalid number"
  | numberOutOfRange => "number out of range"
  | invalidUnicode => "invalid unicode code point"
  | controlCharacter => "control character (\\u0000-\\u001F) found while parsing a string"
  | keyMustBeText => "key must be a string"
  | loneSurrogate => "lone leading surrogate in hex escape"
  | unfinishedEscape => "unexpected end of hex escape"
  | trailingComma => "trailing comma"
  | trailingCharacters => "trailing characters"
  | wrongKind found expected => "invalid type: " ++ found.describe ++ ", expected " ++ expected
  | outOfRange n expected => "invalid value: integer `" ++ toString n ++ "`, expected " ++ expected
  | missingMember name => "missing field `" ++ name ++ "`"
  | repeatedMember name => "duplicate field `" ++ name ++ "`"
  | tooShort length expected =>
    "invalid length " ++ toString length ++ ", expected " ++ expected

/-- A problem with the number of bytes that follow its place. -/
structure Failure where
  problem : Problem
  left : Nat

namespace Failure

/-- A problem right before `s`. -/
def here (p : Problem) (s : Source) : Failure :=
  ⟨p, s.size⟩

/-- A problem `n` bytes into `s`, or at its end if `s` is shorter. -/
def inside (p : Problem) (n : Nat) (s : Source) : Failure :=
  ⟨p, s.size - n⟩

/-- The text ends too early. -/
def ended (c : Construct) : Failure :=
  ⟨.unexpectedEnd c, 0⟩

def message (f : Failure) (s : Source) : String :=
  let place := Position.locate s f.left
  f.problem.message ++ " at line " ++ toString place.line ++ " column " ++ toString place.column

end Failure

/-- What reading a value at the start of `s` answers: the value and what follows it. -/
abbrev Read (α : Type) (s : Source) := Except Failure (α × Shorter s)

end ObjectVolume.Json
