import ObjectVolume.Json.StringLiteral
import ObjectVolume.Json.Numeral
/-!
# Passing over values

Members that a record does not know may hold any value. `skipValue` checks its grammar and nothing
more: numbers may be out of range and strings need not be text.

This is what `serde_json` does with members that are to be ignored.
-/
namespace ObjectVolume.Json

/-- Reads on through the letters of a literal word. -/
def readWord (letters : List Char) (s : Source) : Except Failure (Upto s) :=
  match letters, s with
  | [], s => .ok ⟨s, Nat.le_refl _⟩
  | _ :: _, [] => .error (.ended .value)
  | c :: cs, g :: r =>
    if g = .char c then do
      let ⟨r₁, h⟩ ← readWord cs r
      return ⟨r₁, Nat.le_succ_of_le h⟩
    else .error (.inside .expectedWord 1 (g :: r))

/-- Passes a colon. -/
def readColon (s : Source) : Except Failure (Shorter s) :=
  match s.next? with
  | none => .error (.ended .object)
  | some (.char ':', r) => .ok r
  | some (g, r) => .error (.inside .expectedColon 1 (g :: r.val))

mutual

/-- Passes over the next value. -/
def skipValue (s : Source) : Except Failure (Shorter s) :=
  match s.next? with
  | none => .error (.ended .value)
  | some (g, ⟨r, h⟩) =>
    if g = .char 'n' then do
      let ⟨r₁, h₁⟩ ← readWord ['u', 'l', 'l'] r
      return ⟨r₁, Source.shorter_of_upto h h₁⟩
    else if g = .char 't' then do
      let ⟨r₁, h₁⟩ ← readWord ['r', 'u', 'e'] r
      return ⟨r₁, Source.shorter_of_upto h h₁⟩
    else if g = .char 'f' then do
      let ⟨r₁, h₁⟩ ← readWord ['a', 'l', 's', 'e'] r
      return ⟨r₁, Source.shorter_of_upto h h₁⟩
    else if g = .char '-' then do
      let ⟨r₁, h₁⟩ ← skipNumeral r
      return ⟨r₁, Source.shorter_trans h h₁⟩
    else if g.digit?.isSome then do
      let ⟨r₁, h₁⟩ ← skipNumeral (g :: r)
      return ⟨r₁, Source.shorter_of_cons h h₁⟩
    else if g = .char '"' then do
      let ⟨r₁, h₁⟩ ← skipString r
      return ⟨r₁, Source.shorter_trans h h₁⟩
    else if g = .char '[' then
      match r.next? with
      | none => .error (.ended .list)
      | some (.char ']', ⟨r₁, h₁⟩) => .ok ⟨r₁, Source.shorter_trans h h₁⟩
      | some _ => do
        let ⟨r₁, h₁⟩ ← skipElements r
        return ⟨r₁, Source.shorter_trans h h₁⟩
    else if g = .char '\x7b' then
      match r.next? with
      | none => .error (.ended .object)
      | some (.char '\x7d', ⟨r₁, h₁⟩) => .ok ⟨r₁, Source.shorter_trans h h₁⟩
      | some _ => do
        let ⟨r₁, h₁⟩ ← skipMembers r
        return ⟨r₁, Source.shorter_trans h h₁⟩
    else .error (.inside .expectedValue 1 (g :: r))
termination_by (s.length, 0)

/-- Passes over one or more elements and the bracket after them. -/
def skipElements (s : Source) : Except Failure (Shorter s) := do
  let ⟨r, h⟩ ← skipValue s
  match r.next? with
  | none => .error (.ended .list)
  | some (.char ',', ⟨r₁, h₁⟩) =>
    have h₁ := Source.shorter_trans h h₁
    let ⟨r₂, h₂⟩ ← skipElements r₁
    return ⟨r₂, Source.shorter_trans h₁ h₂⟩
  | some (.char ']', ⟨r₁, h₁⟩) => .ok ⟨r₁, Source.shorter_trans h h₁⟩
  | some (g, r₁) => .error (.inside .expectedListEnd 1 (g :: r₁.val))
termination_by (s.length, 1)

/-- Passes over one or more members and the brace after them. -/
def skipMembers (s : Source) : Except Failure (Shorter s) :=
  match s.next? with
  | none => .error (.ended .object)
  | some (.char '"', ⟨r, h⟩) => do
    let ⟨r₁, h₁⟩ ← skipString r
    have h₁ := Source.shorter_trans h h₁
    let ⟨r₂, h₂⟩ ← readColon r₁
    have h₂ := Source.shorter_trans h₁ h₂
    let ⟨r₃, h₃⟩ ← skipValue r₂
    have h₃ := Source.shorter_trans h₂ h₃
    match r₃.next? with
    | none => .error (.ended .object)
    | some (.char ',', ⟨r₄, h₄⟩) =>
      have h₄ := Source.shorter_trans h₃ h₄
      let ⟨r₅, h₅⟩ ← skipMembers r₄
      return ⟨r₅, Source.shorter_trans h₄ h₅⟩
    | some (.char '\x7d', ⟨r₄, h₄⟩) => .ok ⟨r₄, Source.shorter_trans h₃ h₄⟩
    | some (g, r₄) => .error (.inside .expectedObjectEnd 1 (g :: r₄.val))
  | some (g, r) => .error (.inside .keyMustBeText 1 (g :: r.val))
termination_by (s.length, 1)

end

end ObjectVolume.Json
