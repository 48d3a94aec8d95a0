import ObjectVolume.Descriptor
import ObjectVolume.Proofs.Json.Written
/-!
# Descriptors and their keys

A descriptor is read back from what is stored of it, and shown as a page of its own. Descriptors of the same root have the same key,
those of different roots do not, and no marker has the key of a descriptor; the scope of a prefix holds
the descriptors of that prefix and of the roots nested in it.
-/
namespace ObjectVolume

namespace Descriptor

open Json (Form ReadBack Value quoted integerText following separated separated_eq readBack_integer
  indentedAt_text indentedAt_integer indentedElements_eq indentedMembers_eq)
open Json.Source (Blank blank_nil)

/-! ## What is written -/

theorem find?_name (k : record.Key) : record.find? (record.name k) = some k := by
  cases k <;> decide

theorem readBack_capacity (f : Form) (n : Int64) :
    ReadBack (Json.readInteger .signed) (f.write (.integer n.toInt)) n.toInt := by
  have hleast := n.le_toInt
  have hgreatest := n.toInt_lt
  have hmin : Int64.minValue.toInt = -2 ^ 63 := by decide
  have hmax : Int64.maxValue.toInt = 2 ^ 63 - 1 := by decide
  rw [Form.write_integer]
  refine readBack_integer ⟨?_, ?_⟩ ⟨?_, ?_⟩
  · change Int64.minValue.toInt ≤ _
    omega
  · change _ ≤ Int64.maxValue.toInt
    omega
  · change -(2 ^ 63 : Int) ≤ _
    exact hleast
  · change _ ≤ ((2 ^ 64 - 1 : Nat) : Int)
    omega

def members (d : Descriptor) : record.Members d where
  written
    | .bucket => .text d.bucket
    | .root => .text d.root
    | .mounter => .text d.mounter
    | .options => .list (d.options.map .text)
    | .capacity => .integer d.capacity.toInt
  value
    | .bucket => d.bucket
    | .root => d.root
    | .mounter => d.mounter
    | .options => some d.options
    | .capacity => d.capacity.toInt
  readBack f k := by
    cases k with
    | bucket => exact f.readBack_text d.bucket
    | root => exact f.readBack_text d.root
    | mounter => exact f.readBack_text d.mounter
    | options => exact f.readBack_someTexts d.options
    | capacity => exact readBack_capacity f d.capacity
  complete := by
    obtain ⟨bucket, root, mounter, options, capacity⟩ := d
    simp [record, bind, Except.bind, pure, Except.pure]

theorem decodeBytes_toJson (f : Form) (d : Descriptor) {after : List Char} (hafter : Blank after) :
    record.decodeBytes (String.ofList (f.write d.toJson ++ after)).toUTF8 = .ok d :=
  d.members.decodeBytes_object find?_name (by decide) (by decide) f hafter

/-- **Round trip.** What is stored of a descriptor is read as the same descriptor. -/
theorem decodeBytes_stored (d : Descriptor) : record.decodeBytes d.stored = .ok d := by
  have hread := d.decodeBytes_toJson .compact blank_nil
  rwa [List.append_nil] at hread

/-! ## What is shown -/

/-- A text between quotes. -/
def quotedText (s : String) : String :=
  String.ofList (quoted s)

/-- Mount options as they are shown, one a line. -/
def optionLines : List String → String
  | [] => "[]"
  | options => "[\n    " ++ ",\n    ".intercalate (options.map quotedText) ++ "\n  ]"

/-- A descriptor as it is shown, one member a line. -/
def page (d : Descriptor) : String :=
  "\x7b\n  \"Name\": " ++ quotedText d.bucket ++ ",\n  \"Prefix\": " ++ quotedText d.root ++
    ",\n  \"Mounter\": " ++ quotedText d.mounter ++
    ",\n  \"MountOptions\": " ++ optionLines d.options ++
    ",\n  \"CapacityBytes\": " ++ toString d.capacity.toInt ++ "\n\x7d"

theorem toList_quotedText (s : String) : (quotedText s).toList = quoted s :=
  String.toList_ofList

theorem optionLines_of_ne_nil {options : List String} (h : options ≠ []) :
    optionLines options = "[\n    " ++ ",\n    ".intercalate (options.map quotedText) ++ "\n  ]" := by
  cases options with
  | nil => exact absurd rfl h
  | cons o os => rfl

theorem toList_optionLines (options : List String) :
    (optionLines options).toList = Value.indentedAt 1 (.list (options.map .text)) := by
  cases options with
  | nil => rfl
  | cons o os =>
    have hlines : Value.indentedElements 1 ((o :: os).map .text) =
        '\n' :: ("    ".toList ++ ",\n    ".toList.intercalate ((o :: os).map quoted)) := by
      rw [indentedElements_eq, separated_eq _ (by simp), List.map_map]
      rfl
    rw [List.map_cons] at hlines
    rw [List.map_cons, Value.indentedAt, hlines, optionLines_of_ne_nil (by simp)]
    simp only [String.toList_append, String.toList_intercalate, List.map_map, Function.comp_def,
      toList_quotedText, List.append_assoc, List.cons_append]
    rfl

/-- The members of a descriptor, each with its value after it. -/
theorem separated_members (bucket root mounter options capacity : List Char) :
    separated (Value.newline 1)
      [quoted Member.bucket.name ++ ':' :: ' ' :: bucket,
       quoted Member.root.name ++ ':' :: ' ' :: root,
       quoted Member.mounter.name ++ ':' :: ' ' :: mounter,
       quoted Member.options.name ++ ':' :: ' ' :: options,
       quoted Member.capacity.name ++ ':' :: ' ' :: capacity] =
    "\n  \"Name\": ".toList ++ bucket ++ ",\n  \"Prefix\": ".toList ++ root ++
      ",\n  \"Mounter\": ".toList ++ mounter ++ ",\n  \"MountOptions\": ".toList ++ options ++
      ",\n  \"CapacityBytes\": ".toList ++ capacity := by
  simp only [separated, following, List.flatMap_cons, List.flatMap_nil, List.append_assoc,
    List.cons_append, List.append_nil]
  rfl

/-- **What is shown** of a descriptor is its page. -/
theorem shown_eq_page (d : Descriptor) : d.shown = d.page := by
  have hshown : d.shown.toList = '\x7b' :: (separated (Value.newline 1)
      [quoted Member.bucket.name ++ ':' :: ' ' :: quoted d.bucket,
       quoted Member.root.name ++ ':' :: ' ' :: quoted d.root,
       quoted Member.mounter.name ++ ':' :: ' ' :: quoted d.mounter,
       quoted Member.options.name ++ ':' :: ' ' :: (optionLines d.options).toList,
       quoted Member.capacity.name ++ ':' :: ' ' :: integerText d.capacity.toInt] ++
      "\n\x7d".toList) := by
    rw [shown, String.toList_ofList, toJson, Value.indented, Value.indentedAt,
      indentedMembers_eq, toList_optionLines]
    simp only [List.map_cons, List.map_nil, indentedAt_text, indentedAt_integer]
    rw [List.cons_append, List.cons_append, List.append_assoc]
    rfl
  rw [← String.toList_inj, hshown, separated_members]
  delta page
  simp only [String.toList_append, toList_quotedText, integerText, List.append_assoc]
  rfl

/-! ## Keys -/

/-- Past a directory there is the same directory, or one nested in it. -/
theorem prefix_directory_iff {n m file : List Char} (hfile : '/' ∉ file) :
    n ++ ['/'] <+: m ++ '/' :: file ↔ n = m ∨ n ++ ['/'] <+: m := by
  constructor
  · rintro ⟨t, ht⟩
    rw [List.append_assoc, List.singleton_append] at ht
    rcases List.append_eq_append_iff.1 ht with ⟨as, rfl, has⟩ | ⟨bs, rfl, hbs⟩
    · cases as with
      | nil => exact .inl (List.append_nil n).symm
      | cons a as =>
        obtain ⟨rfl, -⟩ := List.cons.inj has
        exact .inr ⟨as, by simp⟩
    · cases bs with
      | nil => exact .inl (List.append_nil m)
      | cons b bs =>
        obtain ⟨-, rfl⟩ := List.cons.inj hbs
        exact absurd (by simp) hfile
  · rintro (rfl | h)
    · exact ⟨file, by simp⟩
    · exact h.trans (List.prefix_append _ _)

theorem isRoot_iff {p : String} : Prefix.isRoot p = true ↔ Prefix.normalize p = "" := by
  rw [Prefix.isRoot, String.isEmpty_iff]

theorem toList_scope_of_not_root {p : String} (h : Prefix.normalize p ≠ "") :
    (Prefix.scope p).toList = (Prefix.normalize p).toList ++ ['/'] := by
  rw [Prefix.scope, if_neg fun hroot => h (isRoot_iff.1 hroot)]
  simp [Prefix.marker]

theorem key_of_root {p : String} (h : Prefix.normalize p = "") : key p = fileName :=
  if_pos (isRoot_iff.2 h)

theorem toList_key_of_not_root {p : String} (h : Prefix.normalize p ≠ "") :
    (key p).toList = (Prefix.normalize p).toList ++ '/' :: fileName.toList := by
  rw [key, if_neg fun hroot => h (isRoot_iff.1 hroot)]
  simp

theorem slash_not_mem_fileName : '/' ∉ fileName.toList := by
  decide

/-- Only the descriptor of the whole bucket has no directory. -/
theorem slash_mem_key_iff {p : String} : '/' ∈ (key p).toList ↔ Prefix.normalize p ≠ "" := by
  by_cases hp : Prefix.normalize p = ""
  · rw [key_of_root hp]
    exact iff_of_false slash_not_mem_fileName (not_not_intro hp)
  · rw [toList_key_of_not_root hp]
    exact iff_of_true (by simp) hp

/-- **One descriptor for each root.** Two roots share a key exactly if they are the same. -/
theorem key_inj {p q : String} : key p = key q ↔ Prefix.normalize p = Prefix.normalize q := by
  constructor
  · intro h
    have hroots : Prefix.normalize p ≠ "" ↔ Prefix.normalize q ≠ "" := by
      rw [← slash_mem_key_iff, ← slash_mem_key_iff, h]
    by_cases hp : Prefix.normalize p = ""
    · have hq : Prefix.normalize q = "" := (Decidable.not_iff_not.1 hroots).1 hp
      rw [hp, hq]
    · have hlist := congrArg String.toList h
      rw [toList_key_of_not_root hp, toList_key_of_not_root (hroots.1 hp)] at hlist
      exact String.toList_inj.1 (List.append_cancel_right hlist)
  · intro h
    rw [← key_normalize p, h, key_normalize]

/-- The key of a descriptor does not end with a slash, as markers do. -/
theorem key_ne_marker (p q : String) : key p ≠ Prefix.marker q := by
  intro h
  have hmarker : (Prefix.marker q).toList.getLast? = some '/' := by
    simp [Prefix.marker]
  have hkey : (key p).toList.getLast? = some 'n' := by
    by_cases hp : Prefix.normalize p = ""
    · rw [key_of_root hp]
      decide
    · have hname : ('/' :: fileName.toList).getLast? = some 'n' := by decide
      rw [toList_key_of_not_root hp, List.getLast?_append, hname]
      rfl
  rw [h, hmarker] at hkey
  exact absurd hkey (by decide)

/-- The outer prefix is the whole bucket, the root itself, or a directory that it is nested in. -/
def Nested (outer root : String) : Prop :=
  Prefix.normalize outer = "" ∨ Prefix.normalize outer = Prefix.normalize root ∨
    (Prefix.normalize outer ++ "/").toList <+: (Prefix.normalize root).toList

instance (outer root : String) : Decidable (Nested outer root) :=
  inferInstanceAs (Decidable (_ ∨ _ ∨ _))

/-- **Scopes.** The scope of a prefix holds the descriptor of a root exactly if the root is nested in
the prefix. -/
theorem scope_prefix_key_iff {outer root : String} :
    (Prefix.scope outer).toList <+: (key root).toList ↔ Nested outer root := by
  unfold Nested
  by_cases houter : Prefix.normalize outer = ""
  · have hscope : Prefix.scope outer = "" := if_pos (isRoot_iff.2 houter)
    simp [hscope, houter]
  have hdirectory : (Prefix.normalize outer ++ "/").toList =
      (Prefix.normalize outer).toList ++ ['/'] := by
    simp
  rw [toList_scope_of_not_root houter, hdirectory]
  by_cases hroot : Prefix.normalize root = ""
  · have hkey : ¬ (Prefix.normalize outer).toList ++ ['/'] <+: (key root).toList := fun hbelow =>
      slash_mem_key_iff.1 (hbelow.subset (by simp)) hroot
    simp [hkey, houter, hroot]
  · rw [toList_key_of_not_root hroot, prefix_directory_iff slash_not_mem_fileName, String.toList_inj]
    simp [houter]

end Descriptor

end ObjectVolume
