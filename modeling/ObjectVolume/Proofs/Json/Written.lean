import ObjectVolume.Proofs.Json.Record
/-!
# Both written forms are read back

A value is written on one line, or with one entry a line. The two forms differ in nothing but the
blanks between their tokens (`Form.write_list`, `Form.write_object`), so what is read back from one of
them is read back from the other: `Record.Members.decodeBytes_object`.
-/
namespace ObjectVolume.Json

open Source (ofChars Blank blank_nil)

/-- How a value is written: on one line, or with its inner lines below those of depth `depth`. -/
inductive Form where
  | compact
  | indented (depth : Nat)

namespace Form

def write : Form → Value → List Char
  | compact, v => v.compact
  | indented depth, v => v.indentedAt depth

/-- How the values inside a list or an object are written. -/
def inner : Form → Form
  | compact => compact
  | indented depth => indented (depth + 1)

/-- What stands before each entry of a list or an object. -/
def gap : Form → List Char
  | compact => []
  | indented depth => Value.newline (depth + 1)

/-- What stands between the last entry and the closing bracket. -/
def close : Form → List Char
  | compact => []
  | indented depth => Value.newline depth

/-- What stands between a colon and the value after it. -/
def pad : Form → List Char
  | compact => []
  | indented _ => [' ']

theorem blank_newline (depth : Nat) : Blank (Value.newline depth) := by
  intro c hc
  rw [isBlank_iff]
  rcases List.mem_cons.1 hc with rfl | hc
  · simp
  · rw [(List.mem_replicate.1 hc).2]
    simp

theorem gap_blank (f : Form) : Blank f.gap := by
  cases f with
  | compact => exact blank_nil
  | indented depth => exact blank_newline _

theorem close_blank (f : Form) : Blank f.close := by
  cases f with
  | compact => exact blank_nil
  | indented depth => exact blank_newline _

theorem pad_blank (f : Form) : Blank f.pad := by
  cases f with
  | compact => exact blank_nil
  | indented depth =>
    intro c hc
    rw [List.mem_singleton.1 hc, isBlank_iff]
    simp

/-! ## Values -/

variable (f : Form)

theorem write_null : f.write .null = ['n', 'u', 'l', 'l'] := by
  cases f <;> simp [write, Value.compact, Value.indentedAt]

theorem write_text (t : String) : f.write (.text t) = quoted t := by
  cases f <;> simp [write, Value.compact, Value.indentedAt]

theorem write_integer (n : Int) : f.write (.integer n) = integerText n := by
  cases f <;> simp [write, Value.compact, Value.indentedAt]

theorem write_nil : f.write (.list []) = ['[', ']'] := by
  cases f <;> simp [write, Value.compact, Value.compactElements, Value.indentedAt]

theorem write_list (v : Value) (vs : List Value) : f.write (.list (v :: vs)) =
    '[' :: (separated f.gap ((v :: vs).map f.inner.write) ++ (f.close ++ [']'])) := by
  cases f with
  | compact =>
    change Value.compact (.list (v :: vs)) =
      '[' :: (separated [] ((v :: vs).map Value.compact) ++ ([] ++ [']']))
    simp [Value.compact, compactElements_eq]
  | indented depth =>
    change Value.indentedAt depth (.list (v :: vs)) = '[' :: (separated (Value.newline (depth + 1))
      ((v :: vs).map (Value.indentedAt (depth + 1))) ++ (Value.newline depth ++ [']']))
    simp [Value.indentedAt, indentedElements_eq]

theorem write_object (m : String × Value) (ms : List (String × Value)) : f.write (.object (m :: ms)) =
    '\x7b' :: (separated f.gap ((m :: ms).map fun m =>
      quoted m.1 ++ ':' :: (f.pad ++ f.inner.write m.2)) ++ (f.close ++ ['\x7d'])) := by
  cases f with
  | compact => simp [write, inner, Value.compact, compactMembers_eq, gap, close, pad]
  | indented depth =>
    simp [write, inner, Value.indentedAt, indentedMembers_eq, gap, close, pad]

/-! ## Values are read back -/

theorem readBack_text (t : String) : ReadBack readText (f.write (.text t)) t := by
  rw [write_text]
  exact Json.readBack_text t

theorem readBack_texts (ts : List String) :
    ReadBack readTextList (f.write (.list (ts.map .text))) ts := by
  have hwrite : f.inner.write ∘ Value.text = quoted := funext f.inner.write_text
  cases ts with
  | nil =>
    rw [List.map_nil, write_nil]
    exact readBack_textList blank_nil blank_nil []
  | cons t ts =>
    rw [List.map_cons, write_list, ← List.map_cons, List.map_map, hwrite]
    exact readBack_textList f.gap_blank f.close_blank (t :: ts)

/-- A list starts with its bracket, whatever it holds. -/
theorem readBack_someTexts (ts : List String) :
    ReadBack (readOptional readTextList) (f.write (.list (ts.map .text))) (some ts) := by
  have hread := f.readBack_texts ts
  have hstart : ∃ cs, f.write (.list (ts.map .text)) = '[' :: cs := by
    cases ts with
    | nil => exact ⟨_, f.write_nil⟩
    | cons t ts => exact ⟨_, f.write_list _ _⟩
  obtain ⟨cs, hstart⟩ := hstart
  rw [hstart] at hread ⊢
  exact hread.optional rfl (by decide)

theorem readBack_none {α : Type} (read : (s : Source) → Read α s) :
    ReadBack (readOptional read) (f.write .null) none := by
  rw [write_null]
  exact readBack_null read

theorem readBack_textOption (t : Option String) :
    ReadBack (readOptional readText) (f.write (.ofTextOption t)) t := by
  cases t with
  | none => exact f.readBack_none readText
  | some t =>
    change ReadBack (readOptional readText) (f.write (.text t)) (some t)
    rw [write_text]
    exact (Json.readBack_text t).optional rfl (by decide)

end Form

/-! ## Records -/

namespace Record

variable {α : Type} {R : Record α}

/-- The layout of a record with the values `written`, in one of the two forms. -/
def layoutIn (f : Form) (written : R.Key → Json.Value) : R.Layout where
  written k := f.inner.write (written k)
  pad := f.pad
  gap := f.gap
  close := f.close
  pad_blank := f.pad_blank
  gap_blank := f.gap_blank
  close_blank := f.close_blank

theorem text_layoutIn (f : Form) (written : R.Key → Json.Value) {ks : List R.Key} (hks : ks ≠ []) :
    (layoutIn f written).text ks = f.write (.object (ks.map fun k => (R.name k, written k))) := by
  cases ks with
  | nil => exact absurd rfl hks
  | cons k ks =>
    have hentries : ((k :: ks).map fun k => (R.name k, written k)).map (fun m =>
        quoted m.1 ++ ':' :: (f.pad ++ f.inner.write m.2)) = (k :: ks).map (layoutIn f written).entry :=
      List.map_map
    rw [List.map_cons, Form.write_object]
    exact congrArg (fun es => '\x7b' :: (separated f.gap es ++ (f.close ++ ['\x7d']))) hentries.symm

/-- The members of a record: how they are written, and what they are read as. -/
structure Members (R : Record α) (a : α) where
  written : R.Key → Json.Value
  value : (k : R.Key) → R.Value k
  readBack : ∀ (f : Form) (k : R.Key), ReadBack (R.read k) (f.write (written k)) (value k)
  complete : R.build (fun k => .ok (value k)) = .ok a

/-- The record as a value. -/
def Members.object {a : α} (m : R.Members a) : Json.Value :=
  .object (R.keys.map fun k => (R.name k, m.written k))

/-- Some members may be left out, if the record can be built without them. -/
theorem Members.readBack_object {a b : α} (m : R.Members a) (hname : ∀ k, R.find? (R.name k) = some k)
    (ks : List R.Key) (hks : ks.Nodup) (hsome : ks ≠ [])
    (hbuild : R.build (R.memberOf (Slots.empty.fill m.value ks)) = .ok b) (f : Form) :
    ReadBack R.readRecord (f.write (.object (ks.map fun k => (R.name k, m.written k)))) b := by
  rw [← text_layoutIn f m.written hsome]
  exact Record.readBack_object hname (m.readBack f.inner) hks hbuild

/-- **Round trip.** The bytes of a record are read as the same record, in whichever form it is
written; there may be blanks after it. -/
theorem Members.decodeBytes_object {a : α} (m : R.Members a)
    (hname : ∀ k, R.find? (R.name k) = some k) (hkeys : R.keys.Nodup) (hsome : R.keys ≠ []) (f : Form)
    {after : List Char} (hafter : Blank after) :
    R.decodeBytes (String.ofList (f.write m.object ++ after)).toUTF8 = .ok a := by
  have hmember : R.memberOf (Slots.empty.fill m.value R.keys) = fun k => .ok (m.value k) := by
    funext k
    have hmem : k ∈ R.keys := List.mem_of_find?_eq_some (hname k)
    simp [memberOf, Slots.fill, hmem]
  exact decodeBytes_of_readBack
    (m.readBack_object hname R.keys hkeys hsome (by rw [hmember, m.complete]) f) hafter

end Record

end ObjectVolume.Json
