import ObjectVolume.Json.Skip
/-!
# Reading texts, integers, and lists of texts

Each reader passes the blanks before its value, and names what stands there if that is of another
kind.

These are the readers of `serde_json` for the types of fields.
-/
namespace ObjectVolume.Json

/-- Why the value at `s`, which starts with no blank, is not what is `expected`. A list or an object
is refused where it opens, any other value after its end. -/
def wrongKind (expected : String) (s : Source) : Failure :=
  let refuse (found : Found) (r : Source) : Failure := .here (.wrongKind found expected) r
  let word (letters : List Char) (found : Found) (r : Source) : Failure :=
    match readWord letters r with
    | .ok ⟨r₁, _⟩ => refuse found r₁
    | .error e => e
  let numeral (negative : Bool) (r : Source) : Failure :=
    match readNumeral negative r with
    | .ok (n, ⟨r₁, _⟩) => refuse n.found r₁
    | .error e => e
  match s with
  | .char c :: r =>
    if c = 'n' then word ['u', 'l', 'l'] .null r
    else if c = 't' then word ['r', 'u', 'e'] (.boolean true) r
    else if c = 'f' then word ['a', 'l', 's', 'e'] (.boolean false) r
    else if c = '-' then numeral true r
    else if c.isDigit then numeral false (.char c :: r)
    else if c = '"' then
      match readString r with
      | .ok (text, ⟨r₁, _⟩) => refuse (.text text) r₁
      | .error e => e
    else if c = '[' then refuse .list (.char c :: r)
    else if c = '\x7b' then refuse .object (.char c :: r)
    else .inside .expectedValue 1 (.char c :: r)
  | s => .inside .expectedValue 1 s

def readText (s : Source) : Read String s :=
  match s.next? with
  | none => .error (.ended .value)
  | some (.char '"', ⟨r, h⟩) => do
    let (text, ⟨r₁, h₁⟩) ← readString r
    return (text, ⟨r₁, Source.shorter_trans h h₁⟩)
  | some (g, r) => .error (wrongKind "a string" (g :: r.val))

/-- A kind of integers: its name and its bounds. -/
structure IntegerKind where
  name : String
  least : Int
  greatest : Int

/-- Signed 64-bit integers. -/
def IntegerKind.signed : IntegerKind := ⟨"i64", Int64.minValue.toInt, Int64.maxValue.toInt⟩

/-- Unsigned 64-bit integers. -/
def IntegerKind.unsigned : IntegerKind := ⟨"usize", 0, Int.ofNat UInt64.size - 1⟩

/-- The integer a numeral denotes, if it is one of the kind; it ends before `s`. -/
def IntegerKind.accept (k : IntegerKind) (n : Numeral) (s : Source) : Except Failure Int :=
  match n with
  | .integer i =>
    if k.least ≤ i ∧ i ≤ k.greatest then .ok i else .error (.here (.outOfRange i k.name) s)
  | .float x => .error (.here (.wrongKind (.float x) k.name) s)

def readInteger (k : IntegerKind) (s : Source) : Read Int s :=
  match s.next? with
  | none => .error (.ended .value)
  | some (g, ⟨r, h⟩) =>
    if g = .char '-' then do
      let (n, ⟨r₁, h₁⟩) ← readNumeral true r
      return (← k.accept n r₁, ⟨r₁, Source.shorter_trans h h₁⟩)
    else if g.digit?.isSome then do
      let (n, ⟨r₁, h₁⟩) ← readNumeral false (g :: r)
      return (← k.accept n r₁, ⟨r₁, Source.shorter_of_cons h h₁⟩)
    else .error (wrongKind k.name (g :: r))

/-- Reads `null` as nothing and any other value with `read`. -/
def readOptional {α : Type} (read : (s : Source) → Read α s) (s : Source) : Read (Option α) s :=
  match s.next? with
  | some (.char 'n', ⟨r, h⟩) => do
    let ⟨r₁, h₁⟩ ← readWord ['u', 'l', 'l'] r
    return (none, ⟨r₁, Source.shorter_of_upto h h₁⟩)
  | _ => do
    let (a, r) ← read s
    return (some a, r)

/-! ## Lists -/

/-- Passes what separates the elements of a list: where the next element starts, or none in front
of the closing bracket. -/
def nextElement (first : Bool) (s : Source) : Except Failure (Option (Upto s)) :=
  match s.next? with
  | none => .error (.ended .list)
  | some (g, ⟨r, h⟩) =>
    if g = .char ']' then .ok none
    else if first then .ok (some ⟨g :: r, h⟩)
    else if g = .char ',' then
      match r.next? with
      | none => .error (.ended .value)
      | some (g₁, ⟨r₁, h₁⟩) =>
        if g₁ = .char ']' then .error (.inside .trailingComma 1 (g₁ :: r₁))
        else .ok (some ⟨g₁ :: r₁, Source.shorter_trans h h₁⟩)
    else .error (.inside .expectedListEnd 1 (g :: r))

/-- Passes the closing bracket of a list whose elements have all been read. -/
def endList (s : Source) : Except Failure (Shorter s) :=
  match s.next? with
  | none => .error (.ended .list)
  | some (g, r) =>
    if g = .char ']' then .ok r
    else if g = .char ',' then
      match r.val.skipBlank with
      | .char ']' :: r₁ => .error (.inside .trailingComma 1 (.char ']' :: r₁))
      | r₁ => .error (.inside .trailingCharacters 1 r₁)
    else .error (.inside .trailingCharacters 1 (g :: r.val))

/-- Reads the elements of a list of texts up to its end. -/
def readTexts (first : Bool) (s : Source) : Read (List String) s := do
  match ← nextElement first s with
  | none =>
    let r ← endList s
    return ([], r)
  | some ⟨r, h⟩ =>
    let (text, ⟨r₁, h₁⟩) ← readText r
    have h₁ := Source.lt_of_upto h h₁
    let (texts, ⟨r₂, h₂⟩) ← readTexts false r₁
    return (text :: texts, ⟨r₂, Source.shorter_trans h₁ h₂⟩)
termination_by s.length

def readTextList (s : Source) : Read (List String) s :=
  match s.next? with
  | none => .error (.ended .value)
  | some (g, ⟨r, h⟩) =>
    if g = .char '[' then do
      let (texts, ⟨r₁, h₁⟩) ← readTexts true r
      return (texts, ⟨r₁, Source.shorter_trans h h₁⟩)
    else .error (wrongKind "a sequence" (g :: r))

end ObjectVolume.Json
