import ObjectVolume.Proofs.Json.Extent
/-!
# Objects that somebody else wrote

The text of an object, with its members in any order and any layout, among them any number of members
that a record does not know (`ObjectText`). A record is built from the values of the members that it
knows, whatever the others hold (`Record.decodeBytes_of_values`). Each of them has been read as often as
its name stands in the object, which is once at most: so no record is read if one of its members is
repeated, or if one that it asks for is left out (`Record.of_decodeBytes`).
-/
namespace ObjectVolume.Json

open Source (ofChars ofChars_nil ofChars_cons ofChars_append Blank)

/-! ## Objects as they are written -/

/-- A member of an object, with blanks around each of its tokens. The value may be any value. -/
structure Entry where
  name : String
  /-- How the name stands between its quotes. -/
  spelling : List Char
  value : List Char
  lead : List Char := []
  gap : List Char := []
  pad : List Char := []
  trail : List Char := []
  spells : Spells spelling name.toList
  wellFormed : WellFormed .value value
  lead_blank : Blank lead := by decide
  gap_blank : Blank gap := by decide
  pad_blank : Blank pad := by decide
  trail_blank : Blank trail := by decide

namespace Entry

variable (e : Entry)

def text : List Char :=
  memberText e.lead e.spelling e.gap e.pad e.value e.trail

/-- The member from the opening quote of its name on, and what follows it. -/
def source (tail : Source) : Source :=
  ofChars e.spelling ++ .char '"' :: (ofChars e.gap ++ .char ':' ::
    (ofChars e.pad ++ (ofChars e.value ++ tail)))

theorem ofChars_text (rest : Source) :
    ofChars e.text ++ rest = ofChars e.lead ++ .char '"' :: e.source (ofChars e.trail ++ rest) := by
  simp [text, source, memberText, enclosed]

theorem reads_name (tail : Source) : Reads (readString (e.source tail)) e.name
    (ofChars e.gap ++ .char ':' :: (ofChars e.pad ++ (ofChars e.value ++ tail))) :=
  e.spells.readString _

theorem passes_value {tail : Source} (htail : EndsNumeral tail) :
    Passes (skipValue (ofChars e.pad ++ (ofChars e.value ++ tail))) tail :=
  e.wellFormed.passes e.pad e.pad_blank tail htail

end Entry

/-- The text of an object, with blanks around each of its tokens. -/
structure ObjectText where
  entries : List Entry
  before : List Char := []
  /-- Blanks in front of the closing brace. -/
  close : List Char := []
  after : List Char := []
  before_blank : Blank before := by decide
  close_blank : Blank close := by decide
  after_blank : Blank after := by decide

namespace ObjectText

variable (o : ObjectText)

def text : List Char :=
  o.before ++ '\x7b' :: (separated [] (o.entries.map Entry.text) ++ (o.close ++ '\x7d' :: o.after))

def bytes : ByteArray :=
  (String.ofList o.text).toUTF8

/-- The names of the members, in the order in which they stand. -/
def names : List String :=
  o.entries.map (·.name)

end ObjectText

/-! ## Where the members stand -/

/-- The members `es` stand here, in front of the closing brace of an object; they are all of them if the
first is among them. -/
inductive Stand (rest : Source) : Bool → Source → List Entry → Prop
  | close {first blanks} : Blank blanks → Stand rest first (ofChars blanks ++ .char '\x7d' :: rest) []
  | entry {first s e es tail} : (∃ h, Record.nextMember first s = .ok (some ⟨e.source tail, h⟩)) →
      EndsNumeral tail → Stand rest false tail es → Stand rest first s (e :: es)

/-- What follows a member: the others, and the closing brace. -/
def remainder (es : List Entry) (close : List Char) (rest : Source) : Source :=
  ofChars (following [] (es.map Entry.text)) ++ (ofChars close ++ .char '\x7d' :: rest)

theorem remainder_cons (e : Entry) (es : List Entry) (close : List Char) (rest : Source) :
    remainder (e :: es) close rest = .char ',' :: (ofChars e.lead ++ .char '"' ::
      e.source (ofChars e.trail ++ remainder es close rest)) := by
  rw [← e.ofChars_text]
  simp [remainder, following]

theorem endsNumeral_remainder (es : List Entry) {close : List Char} (hclose : Blank close)
    (rest : Source) : EndsNumeral (remainder es close rest) := by
  cases es with
  | nil => exact endsNumeral_blank hclose (endsNumeral_cons (by decide) rest)
  | cons e es =>
    rw [remainder_cons]
    exact endsNumeral_cons (by decide) _

theorem stand_remainder {close : List Char} (hclose : Blank close) (rest : Source) (es : List Entry)
    {trail : List Char} (htrail : Blank trail) :
    Stand rest false (ofChars trail ++ remainder es close rest) es := by
  induction es generalizing trail with
  | nil =>
    have hsource : ofChars trail ++ remainder [] close rest =
        ofChars (trail ++ close) ++ .char '\x7d' :: rest := by
      simp [remainder, following]
    rw [hsource]
    exact .close (htrail.append hclose)
  | cons e es ih =>
    rw [remainder_cons]
    exact .entry (Record.nextMember_false htrail e.lead_blank _)
      (endsNumeral_blank e.trail_blank (endsNumeral_remainder es hclose rest)) (ih e.trail_blank)

/-- The members of an object stand after its brace. -/
theorem ObjectText.stand (o : ObjectText) : ∃ s, ofChars o.text = ofChars o.before ++ .char '\x7b' :: s ∧
    Stand (ofChars o.after) true s o.entries := by
  obtain ⟨entries, before, close, after, -, hclose, -⟩ := o
  cases entries with
  | nil =>
    refine ⟨ofChars close ++ .char '\x7d' :: ofChars after, ?_, .close hclose⟩
    simp [text, separated]
  | cons e es =>
    refine ⟨ofChars e.lead ++ .char '"' ::
      e.source (ofChars e.trail ++ remainder es close (ofChars after)), ?_, ?_⟩
    · rw [← e.ofChars_text]
      simp [text, remainder, separated]
    · exact .entry (Record.nextMember_true e.lead_blank _)
        (endsNumeral_blank e.trail_blank (endsNumeral_remainder es hclose _))
        (stand_remainder hclose _ es e.trail_blank)

namespace Record

variable {α : Type} {R : Record α}

/-! ## One member after the other -/

/-- A member that is not known, and those after it. -/
theorem ReadsMembers.unknown {first : Bool} {slots after : R.Slots} {s r r₁ r₂ r₃ rest : Source}
    {name : String} (hnext : ∃ h, nextMember first s = .ok (some ⟨r, h⟩))
    (hstring : Reads (readString r) name r₁) (hname : R.find? name = none)
    (hcolon : Passes (readColon r₁) r₂) (hvalue : Passes (skipValue r₂) r₃)
    (h : ReadsMembers false slots r₃ after rest) : ReadsMembers first slots s after rest := by
  obtain ⟨h₀, hnext⟩ := hnext
  obtain ⟨h₁, hstring⟩ := hstring
  obtain ⟨h₂, hcolon⟩ := hcolon
  obtain ⟨h₃, hvalue⟩ := hvalue
  obtain ⟨h₄, hrest⟩ := h
  refine ⟨?_, ?_⟩
  · exact Source.upto_of_shorter (Source.shorter_trans (Source.shorter_trans
      (Source.shorter_trans h₀ h₁) h₂) h₃) h₄
  · rw [readMembers, hnext]
    simp only [hstring, hname, hcolon, hvalue, hrest, bind, Except.bind, pure, Except.pure]

/-- What has been read of the next member, if all have been read. -/
theorem ReadsMembers.cases {first : Bool} {slots after : R.Slots} {s r r₁ r₂ rest : Source}
    {name : String} (h : ReadsMembers first slots s after rest)
    (hnext : ∃ h, nextMember first s = .ok (some ⟨r, h⟩)) (hstring : Reads (readString r) name r₁)
    (hcolon : Passes (readColon r₁) r₂) :
    (∃ k v r₃, R.find? name = some k ∧ slots k = none ∧ Reads (R.read k r₂) v r₃ ∧
      ReadsMembers false (slots.set k v) r₃ after rest) ∨
    (∃ r₃, R.find? name = none ∧ Passes (skipValue r₂) r₃ ∧ ReadsMembers false slots r₃ after rest) := by
  obtain ⟨_, hnext⟩ := hnext
  obtain ⟨_, hstring⟩ := hstring
  obtain ⟨_, hcolon⟩ := hcolon
  obtain ⟨_, h⟩ := h
  rw [readMembers, hnext] at h
  obtain ⟨_, hnext, h⟩ := bind_eq_ok.1 h
  cases hnext
  obtain ⟨_, hname, h⟩ := bind_eq_ok.1 h
  cases hstring.symm.trans hname
  dsimp only at h
  split at h
  next k hk =>
    split at h
    next => cases h
    next hfree =>
      obtain ⟨_, hcolon', h⟩ := bind_eq_ok.1 h
      cases hcolon.symm.trans hcolon'
      obtain ⟨⟨v, r₃, h₃⟩, hvalue, h⟩ := bind_eq_ok.1 h
      obtain ⟨⟨after', r₄, h₄⟩, hrest, h⟩ := bind_eq_ok.1 h
      cases h
      exact .inl ⟨k, v, r₃, hk, by simpa using hfree, ⟨_, hvalue⟩, ⟨_, hrest⟩⟩
  next hk =>
    obtain ⟨_, hcolon', h⟩ := bind_eq_ok.1 h
    cases hcolon.symm.trans hcolon'
    obtain ⟨⟨r₃, h₃⟩, hvalue, h⟩ := bind_eq_ok.1 h
    obtain ⟨⟨after', r₄, h₄⟩, hrest, h⟩ := bind_eq_ok.1 h
    cases h
    exact .inr ⟨r₃, hk, ⟨_, hvalue⟩, ⟨_, hrest⟩⟩

theorem name_of_find? {name : String} {k : R.Key} (h : R.find? name = some k) : R.name k = name := by
  have hfound := List.find?_some (p := fun k => R.name k == name) h
  simpa using hfound

theorem ReadsMembers.unique {first : Bool} {slots after after' : R.Slots} {s r r' : Source}
    (h : ReadsMembers first slots s after r) (h' : ReadsMembers first slots s after' r') :
    after = after' ∧ r = r' := by
  obtain ⟨_, h⟩ := h
  obtain ⟨_, h'⟩ := h'
  cases h.symm.trans h'
  exact ⟨rfl, rfl⟩

/-! ## All members -/

/-- How often a member has been read or is still to be read. -/
def Slots.tally (slots : R.Slots) (es : List Entry) (k : R.Key) : Nat :=
  (slots k).isSome.toNat + (es.map (·.name)).count (R.name k)

section Tally

variable {slots : R.Slots} {e : Entry} {es : List Entry}

theorem Slots.tally_unknown (hname : ∀ k, R.find? (R.name k) = some k) (hk : R.find? e.name = none)
    (k' : R.Key) : slots.tally (e :: es) k' = slots.tally es k' := by
  have hne : e.name ≠ R.name k' := by
    intro heq
    rw [heq, hname k'] at hk
    cases hk
  simp [Slots.tally, hne]

/-- Reading a member moves it from those to be read to those that have been read. -/
theorem Slots.tally_set (hname : ∀ k, R.find? (R.name k) = some k) {k : R.Key}
    (hk : R.find? e.name = some k) (hfree : slots k = none) (v : R.Value k) (k' : R.Key) :
    slots.tally (e :: es) k' = (slots.set k v).tally es k' := by
  have hek := name_of_find? hk
  by_cases h : k = k'
  · subst h
    simp [Slots.tally, Slots.set, hfree, hek]
    omega
  · have hne : e.name ≠ R.name k' := by
      intro heq
      rw [heq, hname k'] at hk
      exact h (Option.some.inj hk).symm
    simp [Slots.tally, Slots.set, h, hne]

theorem Slots.free_of_tally {k : R.Key} (hk : R.find? e.name = some k)
    (h : slots.tally (e :: es) k ≤ 1) : slots k = none := by
  have hek := name_of_find? hk
  cases hslot : slots k with
  | none => rfl
  | some v =>
    simp only [tally, hslot, Option.isSome_some, Bool.toNat_true, List.map_cons, hek,
      List.count_cons_self] at h
    omega

end Tally

theorem Slots.tally_nil (slots : R.Slots) (k : R.Key) :
    slots.tally [] k = (slots k).isSome.toNat := by
  simp [Slots.tally]

/-- **Members are read**, if those that are known hold values of theirs, and no more than once. -/
theorem reads_of_stand {first : Bool} {s rest : Source} {es : List Entry} (h : Stand rest first s es)
    (hname : ∀ k, R.find? (R.name k) = some k) {P : (k : R.Key) → R.Value k → Prop}
    (hvalue : ∀ e ∈ es, ∀ k, e.name = R.name k → ∃ v, P k v ∧ ReadBack (R.read k) e.value v)
    {slots : R.Slots} (hslots : ∀ k v, slots k = some v → P k v) (honce : ∀ k, slots.tally es k ≤ 1) :
    ∃ after, ReadsMembers first slots s after rest ∧ (∀ k v, after k = some v → P k v) ∧
      ∀ k, slots.tally es k = (after k).isSome.toNat := by
  induction h generalizing slots with
  | close hblanks =>
    exact ⟨slots, readsMembers_close hblanks _ slots rest, hslots, Slots.tally_nil slots⟩
  | @entry first s e es tail hnext htail hes ih =>
    have hvalues : ∀ e ∈ es, ∀ k, e.name = R.name k → ∃ v, P k v ∧ ReadBack (R.read k) e.value v :=
      fun e he => hvalue e (List.mem_cons_of_mem _ he)
    have hcolon := readColon_blank e.gap_blank (ofChars e.pad ++ (ofChars e.value ++ tail))
    cases hk : R.find? e.name with
    | none =>
      simp only [Slots.tally_unknown hname hk] at honce ⊢
      obtain ⟨after, hread, hafter⟩ := ih hvalues hslots honce
      exact ⟨after, .unknown hnext (e.reads_name tail) hk hcolon (e.passes_value htail) hread, hafter⟩
    | some k =>
      obtain ⟨v, hv, hback⟩ := hvalue e List.mem_cons_self k (name_of_find? hk).symm
      have hfree := Slots.free_of_tally hk (honce k)
      have hset : ∀ k' v', slots.set k v k' = some v' → P k' v' := by
        intro k' v' h'
        by_cases hkk : k = k'
        · subst hkk
          obtain rfl : v = v' := by simpa [Slots.set] using h'
          exact hv
        · exact hslots k' v' (by simpa [Slots.set, hkk] using h')
      simp only [Slots.tally_set hname hk hfree v] at honce ⊢
      obtain ⟨after, hread, hafter⟩ := ih hvalues hset honce
      exact ⟨after, .known hnext (e.reads_name tail) hk hfree hcolon
        (hback e.pad e.pad_blank tail htail) hread, hafter⟩

/-- **Members are counted.** Where all have been read, each has been read as often as its name stands
there. That is once at most. -/
theorem tally_of_stand {first : Bool} {s rest : Source} {es : List Entry} (h : Stand rest first s es)
    (hname : ∀ k, R.find? (R.name k) = some k) (hreads : ∀ k, ReadsValues (R.read k))
    {slots after : R.Slots} {r : Source} (hread : ReadsMembers first slots s after r) :
    r = rest ∧ ∀ k, slots.tally es k = (after k).isSome.toNat := by
  induction h generalizing slots with
  | close hblanks =>
    obtain ⟨rfl, rfl⟩ := hread.unique (readsMembers_close hblanks _ slots rest)
    exact ⟨rfl, Slots.tally_nil after⟩
  | @entry first s e es tail hnext htail hes ih =>
    have hpass := e.passes_value htail
    rcases hread.cases hnext (e.reads_name tail) (readColon_blank e.gap_blank _) with
      ⟨k, v, r₃, hk, hfree, hvalue, hread⟩ | ⟨r₃, hk, hvalue, hread⟩
    · -- what was read ends where the value does, since it was passed over to there
      obtain rfl := (hreads k hvalue).unique hpass
      obtain ⟨hr, hcount⟩ := ih hread
      exact ⟨hr, fun k' => (Slots.tally_set hname hk hfree v k').trans (hcount k')⟩
    · obtain rfl := hvalue.unique hpass
      obtain ⟨hr, hcount⟩ := ih hread
      exact ⟨hr, fun k' => (Slots.tally_unknown hname hk k').trans (hcount k')⟩

/-! ## Whole objects -/

variable {o : ObjectText}

theorem tally_empty (es : List Entry) (k : R.Key) :
    Slots.empty.tally es k = (es.map (·.name)).count (R.name k) := by
  simp [Slots.tally, Slots.empty]

/-- **Objects are read**, if no member that is known stands there twice, those that are known hold values
of theirs, and a record can be built from them. -/
theorem decodeBytes_of_values (hname : ∀ k, R.find? (R.name k) = some k)
    {P : (k : R.Key) → R.Value k → Prop}
    (hvalue : ∀ e ∈ o.entries, ∀ k, e.name = R.name k → ∃ v, P k v ∧ ReadBack (R.read k) e.value v)
    (honce : ∀ k, o.names.count (R.name k) ≤ 1) {a : α}
    (hbuild : ∀ slots : R.Slots, (∀ k v, slots k = some v → P k v) →
      (∀ k, (slots k).isSome = true ↔ R.name k ∈ o.names) → R.build (R.memberOf slots) = .ok a) :
    R.decodeBytes o.bytes = .ok a := by
  obtain ⟨s, hs, hstand⟩ := o.stand
  have hempty : ∀ k v, (Slots.empty : R.Slots) k = some v → P k v := nofun
  obtain ⟨slots, hread, hslots, htally⟩ := reads_of_stand hstand hname hvalue hempty
    fun k => Nat.le_trans (Nat.le_of_eq (tally_empty o.entries k)) (honce k)
  have hfilled (k : R.Key) : (slots k).isSome = true ↔ R.name k ∈ o.names := by
    have hcount : o.names.count (R.name k) = (slots k).isSome.toNat :=
      (tally_empty o.entries k).symm.trans (htally k)
    rw [← List.count_pos_iff, hcount]
    cases (slots k).isSome <;> simp
  have hdecode := (decode_eq_ok_iff o.before_blank).2
    ⟨slots, _, hread, hbuild slots hslots hfilled, Source.skipBlank_blank o.after_blank⟩
  unfold decodeBytes ObjectText.bytes
  rw [Source.ofBytes_toUTF8, hs]
  simp only [hdecode]

/-- **What has been read.** Each member that is known stands in the object once at most, and those that
do are all that the record is built from. -/
theorem of_decodeBytes (hname : ∀ k, R.find? (R.name k) = some k) (hreads : ∀ k, ReadsValues (R.read k))
    {a : α} (h : R.decodeBytes o.bytes = .ok a) : ∃ slots : R.Slots,
      (∀ k, o.names.count (R.name k) = (slots k).isSome.toNat) ∧ R.build (R.memberOf slots) = .ok a := by
  obtain ⟨s, hs, hstand⟩ := o.stand
  unfold decodeBytes ObjectText.bytes at h
  rw [Source.ofBytes_toUTF8, hs] at h
  dsimp only at h
  split at h
  next a' hdecode =>
    cases h
    obtain ⟨slots, r, hread, hbuild, -⟩ := (decode_eq_ok_iff o.before_blank).1 hdecode
    have htally := (tally_of_stand hstand hname hreads hread).2
    exact ⟨slots, fun k => (tally_empty o.entries k).symm.trans (htally k), hbuild⟩
  next => cases h

end Record

end ObjectVolume.Json
