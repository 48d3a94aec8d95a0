/-!
# Punycode

How a text is written in ASCII alone: its ASCII characters, a hyphen, and then one number for each
other character, which says where it goes and how much greater it is than the last. Numbers are
written in digits whose threshold, below which a digit is the last of its number, adapts to the
numbers before.
-/
namespace ObjectVolume.Url.Punycode

/-! ## Digits -/

def digitCount : Nat := 36

/-- Letters count from zero, decimal digits after them. -/
def digitChar (d : Nat) : Char :=
  .ofNat (if d < 26 then 'a'.toNat + d else '0'.toNat + (d - 26))

def digitValue? (c : Char) : Option Nat :=
  if 'a' ≤ c ∧ c ≤ 'z' then some (c.toNat - 'a'.toNat)
  else if 'A' ≤ c ∧ c ≤ 'Z' then some (c.toNat - 'A'.toNat)
  else if '0' ≤ c ∧ c ≤ '9' then some (c.toNat - '0'.toNat + 26)
  else none

/-- The threshold of the digit with number `i`. -/
def threshold (bias i : Nat) : Nat :=
  let k := digitCount * (i + 1)
  if k ≤ bias then 1 else min (k - bias) 26

theorem threshold_pos (bias i : Nat) : 0 < threshold bias i := by
  simp only [threshold]
  split <;> omega

/-! ## The bias -/

def firstBias : Nat := 72

/-- How many digits a number of the size of `delta` takes, and what is left of it. -/
def shrink (delta steps : Nat) : Nat × Nat :=
  if delta > 455 then shrink (delta / 35) (steps + 1) else (delta, steps)
termination_by delta

/-- The bias after a number `delta`, when there are `count` characters. -/
def adapt (delta count : Nat) (isFirst : Bool) : Nat :=
  let delta := if isFirst then delta / 700 else delta / 2
  let (rest, steps) := shrink (delta + delta / count) 0
  steps * digitCount + digitCount * rest / (rest + 38)

/-! ## Writing -/

/-- Writes a number from its digit with number `i` on. -/
def writeNumber (bias i n : Nat) : List Char :=
  let t := threshold bias i
  if n < t then [digitChar n]
  else digitChar (t + (n - t) % (digitCount - t)) :: writeNumber bias (i + 1) ((n - t) / (digitCount - t))
termination_by n
decreasing_by
  have := threshold_pos bias i
  have := Nat.div_le_self (n - threshold bias i) (digitCount - threshold bias i)
  omega

/-- What the writer has come to. -/
structure Writer where
  /-- What has been written. -/
  text : List Char
  /-- The number for the next character, so far. -/
  delta : Nat := 0
  bias : Nat := firstBias
  /-- Characters that have been written. -/
  count : Nat
  isFirst : Bool := true

/-- Goes past one character when those numbered `n` are to be written. -/
def Writer.pass (n : Nat) (w : Writer) (c : Char) : Writer :=
  if c.toNat < n then { w with delta := w.delta + 1 }
  else if c.toNat = n then
    { text := w.text ++ writeNumber w.bias 0 w.delta
      delta := 0
      bias := adapt w.delta (w.count + 1) w.isFirst
      count := w.count + 1
      isFirst := false }
  else w

/-- Writes the characters with the given numbers, which ascend; all below `next` are written. -/
def writeFrom (cs : List Char) (w : Writer) (next : Nat) : List Nat → Writer
  | [] => w
  | n :: rest =>
    let w := cs.foldl (Writer.pass n) { w with delta := w.delta + (n - next) * (w.count + 1) }
    writeFrom cs { w with delta := w.delta + 1 } (n + 1) rest

def isAscii (c : Char) : Bool :=
  c.toNat < 0x80

def encode (cs : List Char) : List Char :=
  let basic := cs.filter isAscii
  let others := ((cs.filter (!isAscii ·)).map Char.toNat).mergeSort.eraseDups
  let start := if basic.isEmpty then [] else basic ++ ['-']
  (writeFrom cs { text := start, count := basic.length } 0x80 others).text

/-! ## Reading -/

/-- No number reaches this one. -/
def numberLimit : Nat := UInt32.size

/-- Reads a number from its digit with number `i` on; each of it counts `weight`. Gives the number
and what follows. -/
def readNumber (bias i weight sum : Nat) : (cs : List Char) →
    Option (Nat × { r : List Char // r.length < cs.length })
  | [] => none
  | c :: r => do
    let d ← digitValue? c
    let t := threshold bias i
    let sum := sum + d * weight
    if sum ≥ numberLimit then none
    else if d < t then return (sum, ⟨r, by simp⟩)
    else if weight * (digitCount - t) ≥ numberLimit then none
    else do
      let (n, ⟨rest, h⟩) ← readNumber bias (i + 1) (weight * (digitCount - t)) sum r
      return (n, ⟨rest, by simp; omega⟩)

/-- The character with a number, if there is one. -/
def charOf? (n : Nat) : Option Char :=
  if n.isValidChar then some (.ofNat n) else none

/-- Puts the characters that `cs` writes into `text`. The last one is numbered `n` and stands before
`place`. -/
def readFrom (text : List Char) (n place bias : Nat) (isFirst : Bool) (cs : List Char) :
    Option (List Char) :=
  match cs with
  | [] => some text
  | c :: r =>
    match readNumber bias 0 1 0 (c :: r) with
    | none => none
    | some (delta, ⟨rest, _⟩) =>
      let count := text.length + 1
      let n := n + (place + delta) / count
      let place := (place + delta) % count
      match charOf? n with
      | none => none
      | some inserted =>
        readFrom (text.insertIdx place inserted) n (place + 1) (adapt delta count isFirst) false rest
termination_by cs.length
decreasing_by
  simp only [List.length_cons] at *
  omega

/-- Splits at the last hyphen, which is dropped. There is something before it, or there is none. -/
def splitLast (cs : List Char) : List Char × List Char :=
  let behind := (cs.reverse.takeWhile (· != '-')).reverse
  match cs.take (cs.length - behind.length - 1) with
  | [] => ([], cs)
  | basic => (basic, behind)

def decode (cs : List Char) : Option (List Char) :=
  let (basic, numbers) := splitLast cs
  if basic.all isAscii then readFrom basic 0x80 0 firstBias true numbers else none

end ObjectVolume.Url.Punycode
