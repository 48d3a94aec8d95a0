import ObjectVolume.Json.Problem
/-!
# Reading JSON strings

Both readers start after the opening quote and end after the closing one. `readString` gives the
characters; `skipString` passes over a string that nobody looks at, which may hold stray bytes and
unpaired surrogates.

Both do what `serde_json` does.
-/
namespace ObjectVolume.Json

open Text (hexValue)

/-- The character that a one-letter escape stands for. -/
def simpleEscape (c : Char) : Option Char :=
  match c with
  | '"' => some '"'
  | '\\' => some '\\'
  | '/' => some '/'
  | 'b' => some '\x08'
  | 'f' => some '\x0c'
  | 'n' => some '\n'
  | 'r' => some '\r'
  | 't' => some '\t'
  | _ => none

/-- Value of four hexadecimal digits. -/
def hexValue4 (a b c d : Char) : Option Nat := do
  return (((← hexValue a) * 16 + (← hexValue b)) * 16 + (← hexValue c)) * 16 + (← hexValue d)

/-- Four bytes that are not all digits are refused after the last of them. -/
def badHex (s : Source) : Failure :=
  if s.size < 4 then .ended .string else .inside .invalidEscape 4 s

/-- Reads four hexadecimal digits. -/
def readHex (s : Source) : Read Nat s :=
  match s with
  | .char a :: .char b :: .char c :: .char d :: r =>
    match hexValue4 a b c d with
    | some n => .ok (n, ⟨r, by simp only [List.length_cons]; omega⟩)
    | none => .error (badHex s)
  | _ => .error (badHex s)

def isHighSurrogate (n : Nat) : Bool :=
  0xD800 ≤ n && n ≤ 0xDBFF

def isLowSurrogate (n : Nat) : Bool :=
  0xDC00 ≤ n && n ≤ 0xDFFF

/-- The character that a pair of surrogates encodes. -/
def ofSurrogates (high low : Nat) : Char :=
  Char.ofNat ((high - 0xD800) * 0x400 + (low - 0xDC00) + 0x10000)

/-- Reads the second half of a surrogate pair, from its backslash on. -/
def readLowSurrogate (high : Nat) (s : Source) : Read Char s :=
  match s with
  | [] => .error (.ended .string)
  | .char '\\' :: [] => .error (.ended .string)
  | .char '\\' :: .char 'u' :: r => do
    let (low, ⟨r', h⟩) ← readHex r
    if isLowSurrogate low then
      return (ofSurrogates high low, ⟨r', by simp only [List.length_cons]; omega⟩)
    else throw (.here .loneSurrogate r')
  | .char '\\' :: r => .error (.inside .unfinishedEscape 1 r)
  | _ => .error (.inside .unfinishedEscape 1 s)

/-- Reads an escape after its backslash. -/
def readEscape (s : Source) : Read Char s :=
  match s with
  | [] => .error (.ended .string)
  | .char 'u' :: r => do
    let (n, ⟨r₁, h₁⟩) ← readHex r
    if isLowSurrogate n then throw (.here .loneSurrogate r₁)
    else if isHighSurrogate n then
      let (c, ⟨r₂, h₂⟩) ← readLowSurrogate n r₁
      return (c, ⟨r₂, by simp only [List.length_cons]; omega⟩)
    else return (Char.ofNat n, ⟨r₁, by simp only [List.length_cons]; omega⟩)
  | .char c :: r =>
    match simpleEscape c with
    | some d => .ok (d, ⟨r, by simp⟩)
    | none => .error (.inside .invalidEscape 1 s)
  | _ => .error (.inside .invalidEscape 1 s)

/-- Characters up to the closing quote. `stray` is the number of bytes after the first stray byte
that has been passed; it is reported when the string is complete. -/
def readCharacters (stray : Option Nat) (s : Source) : Read (List Char) s :=
  match s with
  | [] => .error (.ended .string)
  | .char '"' :: r =>
    match stray with
    | none => .ok ([], ⟨r, by simp⟩)
    | some left => .error ⟨.invalidUnicode, left⟩
  | .char '\\' :: r => do
    let (c, ⟨r₁, h₁⟩) ← readEscape r
    let (cs, ⟨r₂, h₂⟩) ← readCharacters stray r₁
    return (c :: cs, ⟨r₂, by simp only [List.length_cons]; omega⟩)
  | .char c :: r =>
    if c.toNat < 0x20 then .error (.inside .controlCharacter 1 s)
    else do
      let (cs, ⟨r₁, h₁⟩) ← readCharacters stray r
      return (c :: cs, ⟨r₁, by simp only [List.length_cons]; omega⟩)
  | .stray _ :: r => do
    let (cs, ⟨r₁, h₁⟩) ← readCharacters (stray <|> some (Source.size r)) r
    return (cs, ⟨r₁, by simp only [List.length_cons]; omega⟩)
termination_by s.length
decreasing_by all_goals simp only [List.length_cons]; omega

def readString (s : Source) : Read String s := do
  let (cs, r) ← readCharacters none s
  return (String.ofList cs, r)

/-- Passes over an escape after its backslash. -/
def skipEscape (s : Source) : Except Failure (Shorter s) :=
  match s with
  | [] => .error (.ended .string)
  | .char 'u' :: r => do
    let (_, ⟨r₁, h₁⟩) ← readHex r
    return ⟨r₁, by simp only [List.length_cons]; omega⟩
  | .char c :: r =>
    if (simpleEscape c).isSome then .ok ⟨r, by simp⟩ else .error (.inside .invalidEscape 1 s)
  | _ => .error (.inside .invalidEscape 1 s)

def skipString (s : Source) : Except Failure (Shorter s) :=
  match s with
  | [] => .error (.ended .string)
  | .char '"' :: r => .ok ⟨r, by simp⟩
  | .char '\\' :: r => do
    let ⟨r₁, h₁⟩ ← skipEscape r
    let ⟨r₂, h₂⟩ ← skipString r₁
    return ⟨r₂, by simp only [List.length_cons]; omega⟩
  | .char c :: r =>
    if c.toNat < 0x20 then .error (.here .controlCharacter s)
    else do
      let ⟨r₁, h₁⟩ ← skipString r
      return ⟨r₁, by simp only [List.length_cons]; omega⟩
  | .stray _ :: r => do
    let ⟨r₁, h₁⟩ ← skipString r
    return ⟨r₁, by simp only [List.length_cons]; omega⟩
termination_by s.length
decreasing_by all_goals simp only [List.length_cons]; omega

end ObjectVolume.Json
