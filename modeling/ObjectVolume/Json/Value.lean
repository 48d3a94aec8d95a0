/-!
# JSON values and their two written forms

`compact` puts no blank anywhere; `indented` puts every element and member on a line of its own,
two blanks deeper than the brackets around it. Members stand in the order in which they are given.

| here | there |
| --- | --- |
| `Value.compact` | `serde_json.to_string`, `serde_json.to_vec` |
| `Value.indented` | `serde_json.to_string_pretty` |
| `escape` | the escapes of both |
-/
namespace ObjectVolume.Json

/-- The values that records of this library are made of. -/
inductive Value where
  | null
  | integer (n : Int)
  | text (s : String)
  | list (elements : List Value)
  | object (members : List (String × Value))

/-! ## Strings -/

/-- A lower-case hexadecimal digit. -/
def hexDigit (n : Nat) : Char :=
  Nat.digitChar n

/-- How a character stands inside a JSON string: quotes, backslashes and the control characters
below the blank are escaped, nothing else is. -/
def escape (c : Char) : List Char :=
  if c = '"' ∨ c = '\\' then ['\\', c]
  else if c = '\x08' then ['\\', 'b']
  else if c = '\x0c' then ['\\', 'f']
  else if c = '\n' then ['\\', 'n']
  else if c = '\r' then ['\\', 'r']
  else if c = '\t' then ['\\', 't']
  else if c.toNat < 0x20 then
    ['\\', 'u', '0', '0', hexDigit (c.toNat / 16), hexDigit (c.toNat % 16)]
  else [c]

def quoted (s : String) : List Char :=
  '"' :: s.toList.flatMap escape ++ ['"']

/-- Decimal digits, after a minus sign for the negative ones. -/
def integerText (n : Int) : List Char :=
  (toString n).toList

namespace Value

/-! ## One line -/

mutual
/-- The value without any blank. -/
def compact : Value → List Char
  | null => ['n', 'u', 'l', 'l']
  | integer n => integerText n
  | text s => quoted s
  | list es => '[' :: compactElements es ++ [']']
  | object ms => '\x7b' :: compactMembers ms ++ ['\x7d']

def compactElements : List Value → List Char
  | [] => []
  | [v] => compact v
  | v :: vs => compact v ++ ',' :: compactElements vs

def compactMembers : List (String × Value) → List Char
  | [] => []
  | [(k, v)] => quoted k ++ ':' :: compact v
  | (k, v) :: ms => quoted k ++ ':' :: compact v ++ ',' :: compactMembers ms
end

/-! ## One entry a line -/

/-- A new line at nesting depth `depth`. -/
def newline (depth : Nat) : List Char :=
  '\n' :: List.replicate (2 * depth) ' '

mutual
/-- The value with its inner lines at depth `depth + 1`; empty brackets stay together. -/
def indentedAt (depth : Nat) : Value → List Char
  | null => ['n', 'u', 'l', 'l']
  | integer n => integerText n
  | text s => quoted s
  | list [] => ['[', ']']
  | list (v :: vs) => '[' :: indentedElements depth (v :: vs) ++ newline depth ++ [']']
  | object [] => ['\x7b', '\x7d']
  | object (m :: ms) => '\x7b' :: indentedMembers depth (m :: ms) ++ newline depth ++ ['\x7d']

def indentedElements (depth : Nat) : List Value → List Char
  | [] => []
  | [v] => newline (depth + 1) ++ indentedAt (depth + 1) v
  | v :: vs => newline (depth + 1) ++ indentedAt (depth + 1) v ++ ',' :: indentedElements depth vs

def indentedMembers (depth : Nat) : List (String × Value) → List Char
  | [] => []
  | [(k, v)] => newline (depth + 1) ++ quoted k ++ ':' :: ' ' :: indentedAt (depth + 1) v
  | (k, v) :: ms => newline (depth + 1) ++ quoted k ++ ':' :: ' ' :: indentedAt (depth + 1) v ++
      ',' :: indentedMembers depth ms
end

def indented (v : Value) : List Char :=
  indentedAt 0 v

/-- An optional text; `null` if there is none. -/
def ofTextOption : Option String → Value
  | none => null
  | some s => text s

end Value

end ObjectVolume.Json
