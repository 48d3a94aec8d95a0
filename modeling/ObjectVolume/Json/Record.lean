import ObjectVolume.Json.Scalar
/-!
# Reading records

A record is written as an object, with its members in any order among members that nobody knows, or
as a list of its values. `Record` says what a record holds; `Record.decode` reads it.

| here | there |
| --- | --- |
| `Record` | the types that are read as JSON, with their defaults |
| `Record.readRecord` | how `serde_json` reads a struct |
| `Record.decode`, `Record.decodeBytes` | `serde_json.from_str`, `serde_json.from_slice` |
-/
namespace ObjectVolume.Json

/-- A kind of records whose values have the type `α`. -/
structure Record (α : Type) where
  /-- How messages name the kind. -/
  title : String
  Key : Type
  [decEq : DecidableEq Key]
  /-- All keys, in the order of the list form. -/
  keys : List Key
  name : Key → String
  Value : Key → Type
  read : (k : Key) → (s : Source) → Read (Value k) s
  /-- The value of a member that is left out of an object. -/
  absent : (k : Key) → Option (Value k) := fun _ => none
  /-- The value of a member that a list ends before. -/
  omitted : (k : Key) → Option (Value k) := absent
  /-- Asks for the members, in the order in which missing ones are reported. -/
  build : ((k : Key) → Except Problem (Value k)) → Except Problem α

attribute [instance] Record.decEq

namespace Record

variable {α : Type} (R : Record α)

/-- The members that have been read. -/
abbrev Slots := (k : R.Key) → Option (R.Value k)

variable {R} in
def Slots.empty : R.Slots := fun _ => none

variable {R} in
/-- The slots with the member `k` filled. -/
def Slots.set (m : R.Slots) (k : R.Key) (v : R.Value k) : R.Slots :=
  fun k' => if h : k = k' then some (h ▸ v) else m k'

/-- The key with a name. -/
def find? (name : String) : Option R.Key :=
  R.keys.find? fun k => R.name k == name

/-- How messages describe the list form. -/
def listTitle : String :=
  R.title ++ " with " ++ toString R.keys.length ++ " elements"

/-! ## Objects -/

/-- Passes what separates the members of an object: what follows the opening quote of the next key,
or none in front of the closing brace. -/
def nextMember (first : Bool) (s : Source) : Except Failure (Option (Shorter s)) :=
  match s.next? with
  | none => .error (.ended .object)
  | some (g, ⟨r, h⟩) =>
    if g = .char '\x7d' then .ok none
    else if first then
      if g = .char '"' then .ok (some ⟨r, h⟩) else .error (.inside .keyMustBeText 1 (g :: r))
    else if g = .char ',' then
      match r.next? with
      | none => .error (.ended .value)
      | some (g₁, ⟨r₁, h₁⟩) =>
        if g₁ = .char '"' then .ok (some ⟨r₁, Source.shorter_trans h h₁⟩)
        else if g₁ = .char '\x7d' then .error (.inside .trailingComma 1 (g₁ :: r₁))
        else .error (.inside .keyMustBeText 1 (g₁ :: r₁))
    else .error (.inside .expectedObjectEnd 1 (g :: r))

/-- Passes the closing brace of an object. Complaints about the object as a whole stand after it. -/
def pastBrace (s : Source) : Source :=
  match s.skipBlank with
  | .char '\x7d' :: r => r
  | r => r

theorem length_pastBrace_le (s : Source) : (pastBrace s).length ≤ s.length := by
  have h := Source.length_skipBlank_le s
  unfold pastBrace
  split
  next hs =>
    rw [hs] at h
    exact Nat.le_of_succ_le h
  next => exact h

/-- Reads members up to the closing brace. -/
def readMembers (first : Bool) (slots : R.Slots) (s : Source) :
    Except Failure (R.Slots × Upto s) := do
  match ← nextMember first s with
  | none => return (slots, ⟨pastBrace s, length_pastBrace_le s⟩)
  | some ⟨r, h⟩ =>
    let (name, ⟨r₁, h₁⟩) ← readString r
    have h₁ := Source.shorter_trans h h₁
    match R.find? name with
    | some k =>
      if (slots k).isSome then throw (.here (.repeatedMember name) (pastBrace r₁))
      let ⟨r₂, h₂⟩ ← readColon r₁
      have h₂ := Source.shorter_trans h₁ h₂
      let (v, ⟨r₃, h₃⟩) ← R.read k r₂
      have h₃ := Source.shorter_trans h₂ h₃
      let (slots, ⟨r₄, h₄⟩) ← readMembers false (slots.set k v) r₃
      return (slots, ⟨r₄, Source.upto_of_shorter h₃ h₄⟩)
    | none =>
      let ⟨r₂, h₂⟩ ← readColon r₁
      have h₂ := Source.shorter_trans h₁ h₂
      let ⟨r₃, h₃⟩ ← skipValue r₂
      have h₃ := Source.shorter_trans h₂ h₃
      let (slots, ⟨r₄, h₄⟩) ← readMembers false slots r₃
      return (slots, ⟨r₄, Source.upto_of_shorter h₃ h₄⟩)
termination_by s.length

/-- The members of an object, those left out supplied. -/
def memberOf (slots : R.Slots) (k : R.Key) : Except Problem (R.Value k) :=
  match slots k <|> R.absent k with
  | some v => .ok v
  | none => .error (.missingMember (R.name k))

/-! ## Lists -/

/-- Reads elements into the slots of `keys`, in order, up to the closing bracket. -/
def readElements (first : Bool) (keys : List R.Key) (slots : R.Slots) (s : Source) :
    Except Failure (R.Slots × Shorter s) :=
  match keys with
  | [] => do return (slots, ← endList s)
  | k :: ks => do
    match ← nextElement first s with
    | none => return (slots, ← endList s)
    | some ⟨r, h⟩ =>
      let (v, ⟨r₁, h₁⟩) ← R.read k r
      have h₁ := Source.lt_of_upto h h₁
      let (slots, ⟨r₂, h₂⟩) ← readElements false ks (slots.set k v) r₁
      return (slots, ⟨r₂, Source.shorter_trans h₁ h₂⟩)

/-- The values of a list, those it ends before supplied. -/
def elementOf (slots : R.Slots) (k : R.Key) : Except Problem (R.Value k) :=
  match slots k <|> R.omitted k with
  | some v => .ok v
  | none => .error (.tooShort (R.keys.idxOf k) R.listTitle)

/-! ## Either form -/

/-- Completes a record that ends before `s`. -/
def complete (get : (k : R.Key) → Except Problem (R.Value k)) (s : Source) : Except Failure α :=
  match R.build get with
  | .ok a => .ok a
  | .error p => .error (.here p s)

def readRecord (s : Source) : Read α s :=
  match s.next? with
  | none => .error (.ended .value)
  | some (g, ⟨r, h⟩) =>
    if g = .char '[' then do
      let (slots, ⟨r₁, h₁⟩) ← R.readElements true R.keys .empty r
      return (← R.complete (R.elementOf slots) r₁, ⟨r₁, Source.shorter_trans h h₁⟩)
    else if g = .char '\x7b' then do
      let (slots, ⟨r₁, h₁⟩) ← R.readMembers true .empty r
      return (← R.complete (R.memberOf slots) r₁, ⟨r₁, Source.shorter_of_upto h h₁⟩)
    else .error (wrongKind R.title (g :: r))

/-- Reads a text that holds one record and nothing else. -/
def decode (s : Source) : Except Failure α := do
  let (a, ⟨r, _⟩) ← R.readRecord s
  match r.skipBlank with
  | [] => return a
  | r => throw (.inside .trailingCharacters 1 r)

/-- Why bytes are not a record of this kind. -/
def decodeBytes (b : ByteArray) : Except String α :=
  let s := Source.ofBytes b
  match R.decode s with
  | .ok a => .ok a
  | .error e => .error (e.message s)

end Record

end ObjectVolume.Json
