import ObjectVolume.Text.Ranges
/-!
# Percent encoding

Which characters are written as percent-encoded bytes depends on the part of the URL they stand in.
Beyond ASCII all of them are.
-/
namespace ObjectVolume.Url

open Text (hexValue)

/-! ## Character sets -/

/-- Controls and all characters beyond ASCII. -/
def isControl (c : Char) : Bool :=
  c.toNat < 0x20 || c.toNat ≥ 0x7f

def inFragment (c : Char) : Bool :=
  isControl c || c == ' ' || c == '"' || c == '<' || c == '>' || c == '`'

def inPath (c : Char) : Bool :=
  inFragment c || c == '#' || c == '?' || c == '\x7b' || c == '\x7d'

def inUserinfo (c : Char) : Bool :=
  inPath c || c == '/' || c == ':' || c == ';' || c == '=' || c == '@' || c == '[' || c == '\\' ||
    c == ']' || c == '^' || c == '|'

def inQuery (c : Char) : Bool :=
  isControl c || c == ' ' || c == '"' || c == '#' || c == '<' || c == '>'

/-- In URLs of the well-known schemes queries have no apostrophes either. -/
def inSpecialQuery (c : Char) : Bool :=
  inQuery c || c == '\''

/-! ## Encoding and decoding -/

/-- Upper-case hexadecimal digit. -/
def hexDigit (n : Nat) : Char :=
  (Nat.digitChar n).toUpper

def encodeByte (b : UInt8) : List Char :=
  ['%', hexDigit (b.toNat / 16), hexDigit (b.toNat % 16)]

def encodeChar (escaped : Char → Bool) (c : Char) : List Char :=
  if escaped c then (String.utf8EncodeChar c).flatMap encodeByte else [c]

/-- `cs` with the characters of the set `escaped` percent-encoded. -/
def encode (escaped : Char → Bool) (cs : List Char) : List Char :=
  cs.flatMap (encodeChar escaped)

/-- The bytes a percent-encoded text stands for. A percent sign without two digits stands for
itself. -/
def decode : List Char → List UInt8
  | '%' :: a :: b :: r =>
    match hexValue a, hexValue b with
    | some x, some y => .ofNat (16 * x + y) :: decode r
    | _, _ => '%'.toNat.toUInt8 :: decode (a :: b :: r)
  | c :: r => String.utf8EncodeChar c ++ decode r
  | [] => []

end ObjectVolume.Url
