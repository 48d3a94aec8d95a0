import ObjectVolume.Json.Record
import ObjectVolume.Proofs.Json.Reading
/-!
# Records that were written as objects are read back

A record whose members are written with their names, in any order and with any blanks between them, is
read back if each of its values is (`Record.readBack_object`), on its own or inside another one.
-/
namespace ObjectVolume.Json

open Source (ofChars ofChars_nil ofChars_cons ofChars_append Blank)

namespace Record

variable {α : Type} (R : Record α)

/-! ## Between the members -/

theorem nextMember_true {gap : List Char} (hgap : Blank gap) (r : Source) :
    ∃ h, nextMember true (ofChars gap ++ .char '"' :: r) = .ok (some ⟨r, h⟩) := by
  obtain ⟨hlt, hnext⟩ := Source.next?_blank hgap (g := .char '"') rfl r
  refine ⟨hlt, ?_⟩
  unfold nextMember
  rw [hnext]
  rfl

theorem nextMember_false {close gap : List Char} (hclose : Blank close) (hgap : Blank gap)
    (r : Source) : ∃ h, nextMember false (ofChars close ++ .char ',' ::
      (ofChars gap ++ .char '"' :: r)) = .ok (some ⟨r, h⟩) := by
  obtain ⟨hlt, hcomma⟩ := Source.next?_blank hclose (g := .char ',') rfl
    (ofChars gap ++ .char '"' :: r)
  obtain ⟨hlt', hnext⟩ := Source.next?_blank hgap (g := .char '"') rfl r
  refine ⟨Source.shorter_trans hlt hlt', ?_⟩
  unfold nextMember
  rw [hcomma]
  simp only [hnext]
  rfl

theorem nextMember_none (first : Bool) {close : List Char} (hclose : Blank close) (r : Source) :
    nextMember first (ofChars close ++ .char '\x7d' :: r) = .ok none := by
  obtain ⟨hlt, hnext⟩ := Source.next?_blank hclose (g := .char '\x7d') rfl r
  unfold nextMember
  rw [hnext]
  rfl

theorem pastBrace_close {close : List Char} (hclose : Blank close) (r : Source) :
    pastBrace (ofChars close ++ .char '\x7d' :: r) = r := by
  have hskip : Source.skipBlank (ofChars close ++ .char '\x7d' :: r) = .char '\x7d' :: r :=
    (Source.skipBlank_append hclose _).trans (Source.skipBlank_cons rfl r)
  unfold pastBrace
  rw [hskip]
  rfl

theorem readColon_blank {gap : List Char} (hgap : Blank gap) (r : Source) :
    Passes (readColon (ofChars gap ++ .char ':' :: r)) r := by
  obtain ⟨hlt, hcolon⟩ := Source.next?_blank hgap (g := .char ':') rfl r
  refine ⟨hlt, ?_⟩
  unfold readColon
  rw [hcolon]
  rfl

/-! ## The members -/

/-- What is written of the record: for each key the characters of its value, and blanks between a name
and its value, before each member and before the closing brace. -/
structure Layout where
  written : R.Key → List Char
  pad : List Char
  gap : List Char
  close : List Char
  pad_blank : Blank pad
  gap_blank : Blank gap
  close_blank : Blank close

variable {R}

/-- A member as it is written. -/
def Layout.entry (L : R.Layout) (k : R.Key) : List Char :=
  quoted (R.name k) ++ ':' :: (L.pad ++ L.written k)

/-- The record as it is written, with the members `ks`. -/
def Layout.text (L : R.Layout) (ks : List R.Key) : List Char :=
  '\x7b' :: (separated L.gap (ks.map L.entry) ++ (L.close ++ ['\x7d']))

/-- A member from the opening quote of its name on, and what follows it. -/
def Layout.member (L : R.Layout) (k : R.Key) (tail : Source) : Source :=
  ofChars ((R.name k).toList.flatMap escape) ++ .char '"' :: .char ':' ::
    (ofChars L.pad ++ (ofChars (L.written k) ++ tail))

/-- What follows a member: the others, and the closing brace. -/
def Layout.tail (L : R.Layout) (ks : List R.Key) (rest : Source) : Source :=
  ofChars (following L.gap (ks.map L.entry)) ++ (ofChars L.close ++ .char '\x7d' :: rest)

section Layout

variable (L : R.Layout) (k : R.Key) (ks : List R.Key) (rest : Source)

theorem Layout.tail_cons : L.tail (k :: ks) rest =
    .char ',' :: (ofChars L.gap ++ .char '"' :: L.member k (L.tail ks rest)) := by
  simp [tail, member, following, entry, quoted]

theorem Layout.ofChars_text_nil : ofChars (L.text []) ++ rest =
    .char '\x7b' :: (ofChars L.close ++ .char '\x7d' :: rest) := by
  simp [text, separated]

theorem Layout.ofChars_text_cons : ofChars (L.text (k :: ks)) ++ rest =
    .char '\x7b' :: (ofChars L.gap ++ .char '"' :: L.member k (L.tail ks rest)) := by
  simp [text, tail, member, separated, entry, quoted]

theorem Layout.endsNumeral_tail : EndsNumeral (L.tail ks rest) := by
  cases ks with
  | nil => exact endsNumeral_blank L.close_blank (endsNumeral_cons (by decide) _)
  | cons k ks =>
    rw [L.tail_cons]
    exact endsNumeral_cons (by decide) _

end Layout

/-- The slots with the members `ks` filled. -/
def Slots.fill (slots : R.Slots) (value : (k : R.Key) → R.Value k) (ks : List R.Key) : R.Slots :=
  fun k => if k ∈ ks then some (value k) else slots k

theorem Slots.fill_cons (slots : R.Slots) (value : (k : R.Key) → R.Value k) (k : R.Key)
    (ks : List R.Key) : slots.fill value (k :: ks) = (slots.set k (value k)).fill value ks := by
  funext k'
  unfold Slots.fill
  by_cases hmem : k' ∈ ks
  · rw [if_pos (List.mem_cons_of_mem _ hmem), if_pos hmem]
  · rw [if_neg hmem]
    by_cases heq : k = k'
    · subst heq
      rw [if_pos List.mem_cons_self]
      simp [Slots.set]
    · rw [if_neg (by simp [hmem, Ne.symm heq])]
      simp [Slots.set, heq]

section Members

variable {slots : R.Slots} {k : R.Key} {v : R.Value k}

theorem memberOf_of_some (h : slots k = some v) : R.memberOf slots k = .ok v := by
  simp [memberOf, h]

/-- A member that may be left out. -/
theorem memberOf_of_absent (h : R.absent k = some v) : R.memberOf slots k = .ok ((slots k).getD v) := by
  cases hk : slots k <;> simp [memberOf, h, hk]

/-- A member that may not be left out. -/
theorem memberOf_of_none (h : slots k = none) (habsent : R.absent k = none) :
    R.memberOf slots k = .error (.missingMember (R.name k)) := by
  simp [memberOf, h, habsent]

end Members

/-- The members are read into the slots, up to the closing brace. -/
def ReadsMembers (first : Bool) (slots : R.Slots) (s : Source) (after : R.Slots) (r : Source) : Prop :=
  ∃ h, R.readMembers first slots s = .ok (after, ⟨r, h⟩)

variable {L : R.Layout} {value : (k : R.Key) → R.Value k}

/-- The end of an object. -/
theorem readsMembers_close {close : List Char} (hclose : Blank close) (first : Bool) (slots : R.Slots)
    (rest : Source) :
    ReadsMembers first slots (ofChars close ++ .char '\x7d' :: rest) slots rest := by
  refine ⟨?_, ?_⟩
  · simp only [List.length_append, List.length_cons]
    omega
  · rw [readMembers, nextMember_none first hclose]
    simp only [bind, Except.bind, pure, Except.pure, pastBrace_close hclose]

/-- A member that is known, and those after it. -/
theorem ReadsMembers.known {first : Bool} {slots after : R.Slots} {s r r₁ r₂ r₃ rest : Source}
    {name : String} {k : R.Key} {v : R.Value k} (hnext : ∃ h, nextMember first s = .ok (some ⟨r, h⟩))
    (hstring : Reads (readString r) name r₁) (hname : R.find? name = some k) (hfree : slots k = none)
    (hcolon : Passes (readColon r₁) r₂) (hvalue : Reads (R.read k r₂) v r₃)
    (h : ReadsMembers false (slots.set k v) r₃ after rest) : ReadsMembers first slots s after rest := by
  obtain ⟨h₀, hnext⟩ := hnext
  obtain ⟨h₁, hstring⟩ := hstring
  obtain ⟨h₂, hcolon⟩ := hcolon
  obtain ⟨h₃, hvalue⟩ := hvalue
  obtain ⟨h₄, hrest⟩ := h
  refine ⟨?_, ?_⟩
  · exact Source.upto_of_shorter (Source.shorter_trans (Source.shorter_trans
      (Source.shorter_trans h₀ h₁) h₂) h₃) h₄
  · rw [readMembers, hnext]
    simp only [hstring, hname, hfree, hcolon, hvalue, hrest, bind, Except.bind, pure, Except.pure]
    rfl

/-- One member as it is written, and those after it. -/
theorem ReadsMembers.cons {first : Bool} {slots after : R.Slots} {s tail rest : Source} {k : R.Key}
    (hnext : ∃ h, nextMember first s = .ok (some ⟨L.member k tail, h⟩))
    (hname : R.find? (R.name k) = some k) (hread : ReadBack (R.read k) (L.written k) (value k))
    (hfree : slots k = none) (htail : EndsNumeral tail)
    (h : ReadsMembers false (slots.set k (value k)) tail after rest) :
    ReadsMembers first slots s after rest :=
  .known hnext ((spells_escape (R.name k)).readString _) hname hfree (readColon_blank Source.blank_nil _)
    (hread L.pad L.pad_blank tail htail) h

/-- The members after one that was read. -/
theorem readsMembers_tail (hname : ∀ k, R.find? (R.name k) = some k)
    (hread : ∀ k, ReadBack (R.read k) (L.written k) (value k)) {ks : List R.Key} (hks : ks.Nodup)
    {slots : R.Slots} (hfree : ∀ k ∈ ks, slots k = none) (rest : Source) :
    ReadsMembers false slots (L.tail ks rest) (slots.fill value ks) rest := by
  induction ks generalizing slots with
  | nil => exact readsMembers_close L.close_blank false slots rest
  | cons k ks ih =>
    obtain ⟨hk, hks⟩ := List.nodup_cons.1 hks
    rw [L.tail_cons, Slots.fill_cons]
    refine .cons (nextMember_false Source.blank_nil L.gap_blank _) (hname k) (hread k)
      (hfree k List.mem_cons_self) (L.endsNumeral_tail ks rest) (ih hks ?_)
    intro k' hk'
    have hne : k ≠ k' := fun heq => hk (heq ▸ hk')
    simpa [Slots.set, hne] using hfree k' (List.mem_cons_of_mem _ hk')

/-- What makes an object a record: its members have been read, they make up the record, and there are only
blanks after them. -/
theorem decode_eq_ok_iff {before : List Char} (hbefore : Blank before) {s : Source} {a : α} :
    R.decode (ofChars before ++ .char '\x7b' :: s) = .ok a ↔ ∃ slots r,
      ReadsMembers true .empty s slots r ∧ R.build (R.memberOf slots) = .ok a ∧ r.skipBlank = [] := by
  obtain ⟨_, hbrace⟩ := Source.next?_blank hbefore (g := .char '\x7b') rfl s
  have hbracket : Glyph.char '\x7b' ≠ .char '[' := by decide
  unfold decode readRecord
  rw [hbrace]
  simp only [if_neg hbracket, if_true]
  constructor
  · intro h
    obtain ⟨_, hrecord, h⟩ := bind_eq_ok.1 h
    obtain ⟨⟨slots, r, hr⟩, hread, hrecord⟩ := bind_eq_ok.1 hrecord
    obtain ⟨a', hcomplete, hrecord⟩ := bind_eq_ok.1 hrecord
    cases hrecord
    dsimp only at h
    split at h
    next hend =>
      cases h
      refine ⟨slots, r, ⟨hr, hread⟩, ?_, hend⟩
      unfold complete at hcomplete
      split at hcomplete
      next hbuild =>
        cases hcomplete
        exact hbuild
      next => cases hcomplete
    next => cases h
  · rintro ⟨slots, r, ⟨hr, hread⟩, hbuild, hend⟩
    simp only [hread, complete, hbuild, hend, bind, Except.bind, pure, Except.pure]

/-- The members of an object are read, whatever follows it. -/
theorem readsMembers_text (hname : ∀ k, R.find? (R.name k) = some k)
    (hread : ∀ k, ReadBack (R.read k) (L.written k) (value k)) {ks : List R.Key} (hks : ks.Nodup)
    (rest : Source) : ∃ s, ofChars (L.text ks) ++ rest = .char '\x7b' :: s ∧
      ReadsMembers true .empty s (Slots.empty.fill value ks) rest := by
  cases ks with
  | nil => exact ⟨_, L.ofChars_text_nil rest, readsMembers_close L.close_blank true .empty rest⟩
  | cons k ks =>
    obtain ⟨hk, hks⟩ := List.nodup_cons.1 hks
    refine ⟨_, L.ofChars_text_cons k ks rest, ?_⟩
    rw [Slots.fill_cons]
    refine .cons (nextMember_true L.gap_blank _) (hname k) (hread k) rfl
      (L.endsNumeral_tail ks rest) (readsMembers_tail hname hread hks ?_ rest)
    intro k' hk'
    have hne : k ≠ k' := fun heq => hk (heq ▸ hk')
    simp [Slots.set, Slots.empty, hne]

/-- **Objects** are read back, if each of their values is. -/
theorem readBack_object (hname : ∀ k, R.find? (R.name k) = some k)
    (hread : ∀ k, ReadBack (R.read k) (L.written k) (value k)) {ks : List R.Key} (hks : ks.Nodup)
    {a : α} (hbuild : R.build (R.memberOf (Slots.empty.fill value ks)) = .ok a) :
    ReadBack R.readRecord (L.text ks) a := by
  intro blanks hblanks rest _
  obtain ⟨s, htext, hlt, hmembers⟩ := readsMembers_text hname hread hks rest
  obtain ⟨hlt', hbrace⟩ := Source.next?_blank hblanks (g := .char '\x7b') rfl s
  have hbracket : Glyph.char '\x7b' ≠ .char '[' := by decide
  rw [htext]
  unfold readRecord
  rw [hbrace]
  simp only [if_neg hbracket, if_true, hmembers, complete, hbuild, bind, Except.bind, pure, Except.pure]
  exact ⟨_, rfl⟩

/-- What is read back is read as a whole text, too, with blanks after it or without. -/
theorem decodeBytes_of_readBack {cs after : List Char} {a : α} (h : ReadBack R.readRecord cs a)
    (hafter : Blank after) : R.decodeBytes (String.ofList (cs ++ after)).toUTF8 = .ok a := by
  have hends : EndsNumeral (ofChars after) := by
    have hblank := endsNumeral_blank hafter (s := []) nofun
    rwa [List.append_nil] at hblank
  have hwhole := h [] Source.blank_nil (ofChars after) hends
  rw [ofChars_nil, List.nil_append] at hwhole
  obtain ⟨hlt, hread⟩ := hwhole
  unfold decodeBytes decode
  rw [Source.ofBytes_toUTF8, ofChars_append]
  simp only [hread, Source.skipBlank_blank hafter, bind, Except.bind, pure, Except.pure]

end Record

end ObjectVolume.Json
