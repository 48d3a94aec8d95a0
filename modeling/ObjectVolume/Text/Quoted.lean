import ObjectVolume.Text.Hidden
/-!
# Quoted text and labelled records

Texts inside messages and in the printed form of records stand between double quotes, with every
character that would not show written as an escape. Records are shown to people with a title and
labelled fields, on one line (`Labelled.compact`) or one field a line (`Labelled.indented`).

| here | there |
| --- | --- |
| `quote`, `quoteOption` | how texts, and texts that may be absent, are shown for debugging |
| `Labelled` | how `S3Client`, `S3Credentials` and `SecretBundle` are shown |
| `Labelled.compact`, `Labelled.indented` | the same on one line, and on several |
-/
namespace ObjectVolume.Text

/-! ## Quoted text -/

/-- How a character stands between quotes. -/
def quoteChar (c : Char) : List Char :=
  if c = '"' ∨ c = '\\' then ['\\', c]
  else if c = '\x00' then ['\\', '0']
  else if c = '\t' then ['\\', 't']
  else if c = '\n' then ['\\', 'n']
  else if c = '\r' then ['\\', 'r']
  else if hidden.contains c then '\\' :: 'u' :: '\x7b' :: hexDigits c.toNat ++ ['\x7d']
  else [c]

def quote (s : String) : String :=
  String.ofList ('"' :: s.toList.flatMap quoteChar ++ ['"'])

/-- `None`, or the quoted text in `Some(…)`. -/
def quoteOption : Option String → String
  | none => "None"
  | some s => "Some(" ++ quote s ++ ")"

/-! ## Labelled records -/

/-- A record as it is shown. One that keeps some fields to itself ends in two dots. -/
structure Labelled where
  title : String
  /-- Labels with the texts of their values. -/
  fields : List (String × String)
  /-- Some fields are not shown. -/
  partially : Bool := false

namespace Labelled

def field (f : String × String) : String :=
  f.1 ++ ": " ++ f.2

/-- `Title \x7b a: 1, b: 2 \x7d`, with `..` as the last entry of a partial record. -/
def compact (r : Labelled) : String :=
  let entries := r.fields.map field ++ (if r.partially then [".."] else [])
  r.title ++ " \x7b " ++ ", ".intercalate entries ++ " \x7d"

/-- One field a line, each with a comma after it. -/
def indented (r : Labelled) : String :=
  let line (entry : String) := "    " ++ entry ++ "\n"
  let entries := r.fields.map (field · ++ ",") ++ (if r.partially then [".."] else [])
  r.title ++ " \x7b\n" ++ String.join (entries.map line) ++ "\x7d"

end Labelled

end ObjectVolume.Text
