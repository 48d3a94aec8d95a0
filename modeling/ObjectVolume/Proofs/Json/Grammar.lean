import ObjectVolume.Proofs.Json.Record
/-!
# The grammar of JSON

Which characters are a value (`WellFormed`), whoever wrote them: with any blanks between the tokens, and
with any of the ways to write a string. What nobody looks at is passed over exactly to its end
(`WellFormed.passes`), however deep it is nested.
-/
namespace ObjectVolume.Json

open Source (ofChars ofChars_nil ofChars_cons ofChars_append Blank)

/-! ## Strings -/

section Strings

variable {s t r : Source}

theorem passes_quote (r : Source) : Passes (skipString (.char '"' :: r)) r := by
  rw [skipString]
  exact ⟨_, rfl⟩

theorem passes_plain {c : Char} (hquote : c ≠ '"') (hbackslash : c ≠ '\\') (hplain : 0x20 ≤ c.toNat)
    (h : Passes (skipString s) r) : Passes (skipString (.char c :: s)) r := by
  obtain ⟨_, h⟩ := h
  rw [skipString]
  · simp only [h, if_neg (Nat.not_lt_of_le hplain), bind, Except.bind, pure, Except.pure]
    exact ⟨_, rfl⟩
  · exact hquote
  · exact hbackslash

theorem passes_stray (b : UInt8) (h : Passes (skipString s) r) :
    Passes (skipString (.stray b :: s)) r := by
  obtain ⟨_, h⟩ := h
  rw [skipString]
  simp only [h, bind, Except.bind, pure, Except.pure]
  exact ⟨_, rfl⟩

theorem passes_escape (hescape : Passes (skipEscape s) t) (h : Passes (skipString t) r) :
    Passes (skipString (.char '\\' :: s)) r := by
  obtain ⟨_, hescape⟩ := hescape
  obtain ⟨_, h⟩ := h
  rw [skipString]
  simp only [hescape, h, bind, Except.bind, pure, Except.pure]
  exact ⟨_, rfl⟩

theorem reads_hex {a b c d : Char} {n : Nat} (h : hexValue4 a b c d = some n) (r : Source) :
    Reads (readHex (.char a :: .char b :: .char c :: .char d :: r)) n r := by
  unfold readHex
  simp only [h]
  exact ⟨_, rfl⟩

theorem passes_hex {n : Nat} (h : Reads (readHex s) n r) : Passes (skipEscape (.char 'u' :: s)) r := by
  obtain ⟨_, h⟩ := h
  rw [skipEscape]
  simp only [h, bind, Except.bind, pure, Except.pure]
  exact ⟨_, rfl⟩

theorem passes_simpleEscape {c : Char} (h : (simpleEscape c).isSome = true) (r : Source) :
    Passes (skipEscape (.char c :: r)) r := by
  have hu : c ≠ 'u' := by
    rintro rfl
    cases h
  rw [skipEscape, if_pos h]
  · exact ⟨_, rfl⟩
  · exact hu

end Strings

/-- What may stand between the quotes of a string. -/
inductive IsString : List Char → Prop
  | nil : IsString []
  | plain {c cs} : c ≠ '"' → c ≠ '\\' → 0x20 ≤ c.toNat → IsString cs → IsString (c :: cs)
  | escape {e cs} : (simpleEscape e).isSome → IsString cs → IsString ('\\' :: e :: cs)
  | unicode {a b c d cs} : (hexValue4 a b c d).isSome → IsString cs →
      IsString ('\\' :: 'u' :: a :: b :: c :: d :: cs)

/-- **Strings** are passed over. -/
theorem IsString.passes {cs : List Char} (h : IsString cs) (rest : Source) :
    Passes (skipString (ofChars cs ++ .char '"' :: rest)) rest := by
  induction h with
  | nil => exact passes_quote rest
  | plain hquote hbackslash hplain _ ih => exact passes_plain hquote hbackslash hplain ih
  | escape hsome _ ih => exact passes_escape (passes_simpleEscape hsome _) ih
  | @unicode a b c d cs hsome _ ih =>
    obtain ⟨n, hn⟩ := Option.isSome_iff_exists.1 hsome
    exact passes_escape (passes_hex (reads_hex hn _)) ih

/-- Strings of text are strings; those with half a surrogate pair spell nothing. -/
theorem Spells.isString {cs ds : List Char} (h : Spells cs ds) : IsString cs := by
  induction h with
  | nil => exact .nil
  | plain hquote hbackslash hplain _ ih => exact .plain hquote hbackslash hplain ih
  | escape he _ ih => exact .escape (by simp [he]) ih
  | unicode hn _ _ _ ih => exact .unicode (by simp [hn]) ih
  | surrogates hhigh _ hlow _ _ ih => exact .unicode (by simp [hhigh]) (.unicode (by simp [hlow]) ih)

/-! ## Numerals -/

/-- At least one digit. -/
def IsDigits (cs : List Char) : Prop :=
  cs ≠ [] ∧ ∀ c ∈ cs, c.isDigit = true

/-- Digits of which the first is not zero, unless it is the only one. -/
def IsWhole (cs : List Char) : Prop :=
  IsDigits cs ∧ (cs.head? = some '0' → cs = ['0'])

def IsFraction (cs : List Char) : Prop :=
  cs = [] ∨ ∃ ds, IsDigits ds ∧ cs = '.' :: ds

def IsExponent (cs : List Char) : Prop :=
  cs = [] ∨ ∃ e sign ds, e ∈ ['e', 'E'] ∧ sign ∈ [[], ['+'], ['-']] ∧ IsDigits ds ∧
    cs = e :: (sign ++ ds)

/-- A numeral without its sign. -/
def IsNumeral (cs : List Char) : Prop :=
  ∃ whole fraction exponent, IsWhole whole ∧ IsFraction fraction ∧ IsExponent exponent ∧
    cs = whole ++ (fraction ++ exponent)

section Numerals

variable {cs : List Char} {rest : Source} (atEnd : Problem)

theorem IsDigits.starts (h : IsDigits cs) : ∃ c ds, cs = c :: ds ∧ c.isDigit = true := by
  obtain ⟨hne, hdigit⟩ := h
  cases cs with
  | nil => exact absurd rfl hne
  | cons c ds => exact ⟨c, ds, rfl, hdigit c List.mem_cons_self⟩

theorem IsDigits.reads (h : IsDigits cs) (hrest : ∀ g ∈ rest.head?, g.digit? = none) :
    Reads (readDigits atEnd (ofChars cs ++ rest)) (cs.map digitValue) rest := by
  obtain ⟨hne, hdigit⟩ := h
  cases cs with
  | nil => exact absurd rfl hne
  | cons c cs =>
    obtain ⟨hr, hspan⟩ := spanDigits_ofChars (fun d hd => hdigit d (List.mem_cons_of_mem _ hd)) hrest
    refine ⟨Nat.lt_succ_of_le hr, ?_⟩
    simp [readDigits, digit?_char (hdigit c List.mem_cons_self), hspan]

/-- A fraction is read up to where neither digits nor a point follow. -/
theorem IsFraction.reads (h : IsFraction cs)
    (hrest : ∀ g ∈ rest.head?, g.digit? = none ∧ g ≠ .char '.') :
    ∃ ds hr, readFraction atEnd (ofChars cs ++ rest) = .ok (ds, ⟨rest, hr⟩) := by
  rcases h with rfl | ⟨ds, hdigits, rfl⟩
  · exact ⟨[], Nat.le_refl _, readFraction_none atEnd fun g hg => (hrest g hg).2⟩
  · obtain ⟨hlt, hread⟩ := hdigits.reads atEnd fun g hg => (hrest g hg).1
    refine ⟨ds.map digitValue, ?_, ?_⟩
    · simp only [ofChars_cons, List.cons_append, List.length_cons]
      omega
    · simp only [ofChars_cons, List.cons_append, readFraction, hread, bind, Except.bind, pure,
        Except.pure]

theorem IsExponent.reads (h : IsExponent cs) (hrest : EndsNumeral rest) :
    ∃ e hr, readExponent atEnd (ofChars cs ++ rest) = .ok (e, ⟨rest, hr⟩) := by
  rcases h with rfl | ⟨e, sign, ds, he, hsign, hdigits, rfl⟩
  · exact ⟨none, Nat.le_refl _, readExponent_none atEnd hrest⟩
  have hletter : e = 'e' ∨ e = 'E' := by simpa using he
  obtain ⟨hlt, hread⟩ := hdigits.reads atEnd fun g hg => (hrest g hg).1
  have hsigned : (readSign (ofChars (sign ++ ds) ++ rest)).2.val = ofChars ds ++ rest := by
    simp only [List.mem_cons, List.not_mem_nil, or_false] at hsign
    rcases hsign with rfl | rfl | rfl
    · -- without a sign the digits come first
      obtain ⟨c, ds, rfl, hc⟩ := hdigits.starts
      have hne (sign : Char) (hsign : sign.isDigit = false) (r : Source) :
          Glyph.char c :: (ofChars ds ++ rest) ≠ .char sign :: r := by
        intro heq
        rw [Glyph.char.inj (List.cons.inj heq).1, hsign] at hc
        cases hc
      simp only [List.nil_append, ofChars_cons, List.cons_append]
      rw [readSign]
      · exact hne '+' rfl
      · exact hne '-' rfl
    · rfl
    · rfl
  unfold readExponent
  simp only [ofChars_cons, List.cons_append, if_pos hletter]
  generalize readSign (ofChars (sign ++ ds) ++ rest) = signed at hsigned ⊢
  obtain ⟨down, r, hr⟩ := signed
  simp only at hsigned
  subst hsigned
  simp only [hread, bind, Except.bind, pure, Except.pure]
  exact ⟨_, Nat.le_succ_of_le (Nat.le_trans (Nat.le_of_lt hlt) hr), rfl⟩

theorem digitValue_ne_zero {c : Char} (h : c.isDigit = true) (hc : c ≠ '0') : digitValue c ≠ 0 := by
  intro hzero
  apply hc
  have hle : 48 ≤ c.toNat := by
    simp only [Char.isDigit, Bool.and_eq_true, decide_eq_true_eq] at h
    exact h.1
  have hcode : c.toNat = 48 := by
    have hzero : c.toNat - 48 = 0 := hzero
    omega
  rw [← Char.ofNat_toNat c, hcode]

/-- **Numerals** are taken apart up to their end. -/
theorem IsNumeral.reads (h : IsNumeral cs) (hrest : EndsNumeral rest) :
    ∃ parts, Reads (readParts atEnd (ofChars cs ++ rest)) parts rest := by
  obtain ⟨whole, fraction, exponent, ⟨hwhole, hzero⟩, hfraction, hexponent, rfl⟩ := h
  -- the first glyph after the fraction, and after the whole part
  have hafter : ∀ g ∈ (ofChars exponent ++ rest).head?, g.digit? = none ∧ g ≠ .char '.' := by
    rcases hexponent with rfl | ⟨e, sign, ds, he, -, -, rfl⟩
    · exact fun g hg => ⟨(hrest g hg).1, (hrest g hg).2.1⟩
    · intro g hg
      cases hg
      simp only [List.mem_cons, List.not_mem_nil, or_false] at he
      rcases he with rfl | rfl <;> decide
  have hpoint : ∀ g ∈ (ofChars fraction ++ (ofChars exponent ++ rest)).head?, g.digit? = none := by
    rcases hfraction with rfl | ⟨ds, -, rfl⟩
    · exact fun g hg => (hafter g hg).1
    · intro g hg
      cases hg
      rfl
  have hleading : ¬ ((whole.map digitValue).head? = some 0 ∧ (whole.map digitValue).length > 1) := by
    rintro ⟨hhead, hlength⟩
    cases whole with
    | nil => cases hhead
    | cons c cs =>
      by_cases hc : c = '0'
      · subst hc
        rw [hzero rfl] at hlength
        simp at hlength
      · exact digitValue_ne_zero (hwhole.2 c List.mem_cons_self) hc (by simpa using hhead)
  obtain ⟨h₁, hread₁⟩ := hwhole.reads atEnd hpoint
  obtain ⟨ds, h₂, hread₂⟩ := hfraction.reads atEnd hafter
  obtain ⟨e, h₃, hread₃⟩ := hexponent.reads atEnd hrest
  refine ⟨⟨whole.map digitValue, ds, e⟩, ?_⟩
  have hsource : ofChars (whole ++ (fraction ++ exponent)) ++ rest =
      ofChars whole ++ (ofChars fraction ++ (ofChars exponent ++ rest)) := by
    simp
  rw [hsource]
  unfold readParts
  simp only [hread₁, if_neg hleading, hread₂, hread₃, bind, Except.bind, pure, Except.pure]
  exact ⟨_, rfl⟩

theorem IsNumeral.passes (h : IsNumeral cs) (hrest : EndsNumeral rest) :
    Passes (skipNumeral (ofChars cs ++ rest)) rest := by
  obtain ⟨parts, hlt, hread⟩ := h.reads .invalidNumber hrest
  unfold skipNumeral
  simp only [hread, bind, Except.bind, pure, Except.pure]
  exact ⟨_, rfl⟩

/-- A numeral starts with a digit. -/
theorem IsNumeral.starts (h : IsNumeral cs) : ∃ c ds, cs = c :: ds ∧ c.isDigit = true := by
  obtain ⟨whole, fraction, exponent, ⟨hwhole, -⟩, -, -, rfl⟩ := h
  obtain ⟨c, ds, rfl, hc⟩ := hwhole.starts
  exact ⟨c, _, rfl, hc⟩

end Numerals

/-! ## Passing over a value

What a value starts with decides how it is passed over.
-/

section Start

variable {s r q : Source} {h : r.length < s.length}

/-- The literal words, each told by its first letter. -/
def literals : List (Char × List Char) :=
  [('n', ['u', 'l', 'l']), ('t', ['r', 'u', 'e']), ('f', ['a', 'l', 's', 'e'])]

theorem passes_word {c : Char} {letters : List Char} (hword : (c, letters) ∈ literals)
    (hnext : s.next? = some (.char c, ⟨r, h⟩)) {hq : q.length ≤ r.length}
    (hread : readWord letters r = .ok ⟨q, hq⟩) : Passes (skipValue s) q := by
  unfold skipValue
  rw [hnext]
  simp only [literals, List.mem_cons, List.not_mem_nil, or_false, Prod.mk.injEq] at hword
  rcases hword with ⟨rfl, rfl⟩ | ⟨rfl, rfl⟩ | ⟨rfl, rfl⟩ <;>
    simp only [Glyph.char.injEq, Char.reduceEq, hread, if_false, if_true, bind, Except.bind, pure,
      Except.pure] <;>
    exact ⟨_, rfl⟩

theorem passes_negative (hnext : s.next? = some (.char '-', ⟨r, h⟩)) (hpass : Passes (skipNumeral r) q) :
    Passes (skipValue s) q := by
  obtain ⟨_, hpass⟩ := hpass
  unfold skipValue
  rw [hnext]
  simp only [Glyph.char.injEq, Char.reduceEq, hpass, if_false, if_true, bind, Except.bind, pure,
    Except.pure]
  exact ⟨_, rfl⟩

theorem passes_numeral {g : Glyph} (hg : g.digit?.isSome = true) (hnext : s.next? = some (g, ⟨r, h⟩))
    (hpass : Passes (skipNumeral (g :: r)) q) : Passes (skipValue s) q := by
  obtain ⟨_, hpass⟩ := hpass
  have hletter (d : Char) (hd : (Glyph.char d).digit? = none) : (g = .char d) = False := by
    refine eq_false fun heq => ?_
    rw [heq, hd] at hg
    cases hg
  unfold skipValue
  rw [hnext]
  simp only [hletter 'n' rfl, hletter 't' rfl, hletter 'f' rfl, hletter '-' rfl, hg, hpass, if_false,
    if_true, bind, Except.bind, pure, Except.pure]
  exact ⟨_, rfl⟩

theorem passes_text (hnext : s.next? = some (.char '"', ⟨r, h⟩)) (hpass : Passes (skipString r) q) :
    Passes (skipValue s) q := by
  obtain ⟨_, hpass⟩ := hpass
  have hdigit : (Glyph.char '"').digit?.isSome = false := rfl
  unfold skipValue
  rw [hnext]
  simp only [Glyph.char.injEq, Char.reduceEq, hdigit, Bool.false_eq_true, hpass, if_false, if_true,
    bind, Except.bind, pure, Except.pure]
  exact ⟨_, rfl⟩

theorem passes_emptyList (hnext : s.next? = some (.char '[', ⟨r, h⟩)) {hq : q.length < r.length}
    (hend : r.next? = some (.char ']', ⟨q, hq⟩)) : Passes (skipValue s) q := by
  have hdigit : (Glyph.char '[').digit?.isSome = false := rfl
  unfold skipValue
  rw [hnext]
  simp only [Glyph.char.injEq, Char.reduceEq, hdigit, Bool.false_eq_true, hend, if_false, if_true]
  exact ⟨_, rfl⟩

theorem passes_list (hnext : s.next? = some (.char '[', ⟨r, h⟩)) {g : Glyph} {t : Shorter r}
    (hfirst : r.next? = some (g, t)) (hg : g ≠ .char ']') (hpass : Passes (skipElements r) q) :
    Passes (skipValue s) q := by
  obtain ⟨_, hpass⟩ := hpass
  have hdigit : (Glyph.char '[').digit?.isSome = false := rfl
  unfold skipValue
  rw [hnext]
  simp only [Glyph.char.injEq, Char.reduceEq, hdigit, Bool.false_eq_true, hfirst, if_false, if_true]
  split
  next hnone => cases hnone
  next heq =>
    cases heq
    exact absurd rfl hg
  next =>
    simp only [hpass, bind, Except.bind, pure, Except.pure]
    exact ⟨_, rfl⟩

theorem passes_emptyObject (hnext : s.next? = some (.char '\x7b', ⟨r, h⟩)) {hq : q.length < r.length}
    (hend : r.next? = some (.char '\x7d', ⟨q, hq⟩)) : Passes (skipValue s) q := by
  have hdigit : (Glyph.char '\x7b').digit?.isSome = false := rfl
  unfold skipValue
  rw [hnext]
  simp only [Glyph.char.injEq, Char.reduceEq, hdigit, Bool.false_eq_true, hend, if_false, if_true]
  exact ⟨_, rfl⟩

theorem passes_object (hnext : s.next? = some (.char '\x7b', ⟨r, h⟩)) {g : Glyph} {t : Shorter r}
    (hfirst : r.next? = some (g, t)) (hg : g ≠ .char '\x7d') (hpass : Passes (skipMembers r) q) :
    Passes (skipValue s) q := by
  obtain ⟨_, hpass⟩ := hpass
  have hdigit : (Glyph.char '\x7b').digit?.isSome = false := rfl
  unfold skipValue
  rw [hnext]
  simp only [Glyph.char.injEq, Char.reduceEq, hdigit, Bool.false_eq_true, hfirst, if_false, if_true]
  split
  next hnone => cases hnone
  next heq =>
    cases heq
    exact absurd rfl hg
  next =>
    simp only [hpass, bind, Except.bind, pure, Except.pure]
    exact ⟨_, rfl⟩

/-- The last element of a list. -/
theorem passes_lastElement (hvalue : Passes (skipValue s) r) {hq : q.length < r.length}
    (hend : r.next? = some (.char ']', ⟨q, hq⟩)) : Passes (skipElements s) q := by
  obtain ⟨_, hvalue⟩ := hvalue
  rw [skipElements]
  simp only [hvalue, hend, bind, Except.bind]
  exact ⟨_, rfl⟩

theorem passes_element (hvalue : Passes (skipValue s) r) {t : Source} {ht : t.length < r.length}
    (hcomma : r.next? = some (.char ',', ⟨t, ht⟩)) (hpass : Passes (skipElements t) q) :
    Passes (skipElements s) q := by
  obtain ⟨_, hvalue⟩ := hvalue
  obtain ⟨_, hpass⟩ := hpass
  rw [skipElements]
  simp only [hvalue, hcomma, hpass, bind, Except.bind, pure, Except.pure]
  exact ⟨_, rfl⟩

/-- The last member of an object. -/
theorem passes_lastMember (hquote : s.next? = some (.char '"', ⟨r, h⟩)) {r₁ r₂ r₃ : Source}
    (hname : Passes (skipString r) r₁) (hcolon : Passes (readColon r₁) r₂)
    (hvalue : Passes (skipValue r₂) r₃) {hq : q.length < r₃.length}
    (hend : r₃.next? = some (.char '\x7d', ⟨q, hq⟩)) : Passes (skipMembers s) q := by
  obtain ⟨_, hname⟩ := hname
  obtain ⟨_, hcolon⟩ := hcolon
  obtain ⟨_, hvalue⟩ := hvalue
  rw [skipMembers, hquote]
  simp only [hname, hcolon, hvalue, hend, bind, Except.bind]
  exact ⟨_, rfl⟩

theorem passes_member (hquote : s.next? = some (.char '"', ⟨r, h⟩)) {r₁ r₂ r₃ t : Source}
    (hname : Passes (skipString r) r₁) (hcolon : Passes (readColon r₁) r₂)
    (hvalue : Passes (skipValue r₂) r₃) {ht : t.length < r₃.length}
    (hcomma : r₃.next? = some (.char ',', ⟨t, ht⟩)) (hpass : Passes (skipMembers t) q) :
    Passes (skipMembers s) q := by
  obtain ⟨_, hname⟩ := hname
  obtain ⟨_, hcolon⟩ := hcolon
  obtain ⟨_, hvalue⟩ := hvalue
  obtain ⟨_, hpass⟩ := hpass
  rw [skipMembers, hquote]
  simp only [hname, hcolon, hvalue, hcomma, hpass, bind, Except.bind, pure, Except.pure]
  exact ⟨_, rfl⟩

end Start

/-! ## Values -/

/-- What characters may be: a value, or what stands between the brackets of a list or an object that is
not empty. -/
inductive Part where
  | value
  | elements
  | members

/-- A member with blanks around each of its tokens. -/
def memberText (lead name gap pad value trail : List Char) : List Char :=
  lead ++ (enclosed name ++ (gap ++ ':' :: (pad ++ (value ++ trail))))

/-- **The grammar.** -/
inductive WellFormed : Part → List Char → Prop
  | null : WellFormed .value ['n', 'u', 'l', 'l']
  | yes : WellFormed .value ['t', 'r', 'u', 'e']
  | no : WellFormed .value ['f', 'a', 'l', 's', 'e']
  | numeral {cs} : IsNumeral cs → WellFormed .value cs
  | negative {cs} : IsNumeral cs → WellFormed .value ('-' :: cs)
  | text {cs} : IsString cs → WellFormed .value (enclosed cs)
  | emptyList {gap} : Blank gap → WellFormed .value ('[' :: (gap ++ [']']))
  | list {cs} : WellFormed .elements cs → WellFormed .value ('[' :: (cs ++ [']']))
  | emptyObject {gap} : Blank gap → WellFormed .value ('\x7b' :: (gap ++ ['\x7d']))
  | object {cs} : WellFormed .members cs → WellFormed .value ('\x7b' :: (cs ++ ['\x7d']))
  | lastElement {lead value trail} : Blank lead → WellFormed .value value → Blank trail →
      WellFormed .elements (lead ++ (value ++ trail))
  | element {lead value trail cs} : Blank lead → WellFormed .value value → Blank trail →
      WellFormed .elements cs → WellFormed .elements (lead ++ (value ++ (trail ++ ',' :: cs)))
  | lastMember {lead name gap pad value trail} : Blank lead → IsString name → Blank gap → Blank pad →
      WellFormed .value value → Blank trail →
      WellFormed .members (memberText lead name gap pad value trail)
  | member {lead name gap pad value trail cs} : Blank lead → IsString name → Blank gap → Blank pad →
      WellFormed .value value → Blank trail → WellFormed .members cs →
      WellFormed .members (memberText lead name gap pad value (trail ++ ',' :: cs))

/-- What a part starts with after blanks. No bracket closes there. -/
theorem WellFormed.starts {p : Part} {cs : List Char} (h : WellFormed p cs) :
    ∃ lead c ds, Blank lead ∧ cs = lead ++ c :: ds ∧ Source.isBlank (.char c) = false ∧
      c ≠ ']' ∧ c ≠ '\x7d' := by
  have hnone := Source.blank_nil
  induction h with
  | null => exact ⟨[], 'n', _, hnone, rfl, rfl, by decide, by decide⟩
  | yes => exact ⟨[], 't', _, hnone, rfl, rfl, by decide, by decide⟩
  | no => exact ⟨[], 'f', _, hnone, rfl, rfl, by decide, by decide⟩
  | numeral hnumeral =>
    obtain ⟨c, ds, rfl, hc⟩ := hnumeral.starts
    refine ⟨[], c, ds, hnone, rfl, isBlank_of_isDigit hc, ?_, ?_⟩ <;> rintro rfl <;> cases hc
  | negative _ => exact ⟨[], '-', _, hnone, rfl, rfl, by decide, by decide⟩
  | text _ => exact ⟨[], '"', _, hnone, rfl, rfl, by decide, by decide⟩
  | emptyList _ => exact ⟨[], '[', _, hnone, rfl, rfl, by decide, by decide⟩
  | list _ _ => exact ⟨[], '[', _, hnone, rfl, rfl, by decide, by decide⟩
  | emptyObject _ => exact ⟨[], '\x7b', _, hnone, rfl, rfl, by decide, by decide⟩
  | object _ _ => exact ⟨[], '\x7b', _, hnone, rfl, rfl, by decide, by decide⟩
  | @lastElement lead value trail hlead _ _ ih =>
    obtain ⟨gap, c, ds, hgap, rfl, hc⟩ := ih
    exact ⟨lead ++ gap, c, ds ++ trail, hlead.append hgap, by simp, hc⟩
  | @element lead value trail cs hlead _ _ _ ih _ =>
    obtain ⟨gap, c, ds, hgap, rfl, hc⟩ := ih
    exact ⟨lead ++ gap, c, ds ++ (trail ++ ',' :: cs), hlead.append hgap, by simp, hc⟩
  | lastMember hlead _ _ _ _ _ _ =>
    exact ⟨_, '"', _, hlead, rfl, rfl, by decide, by decide⟩
  | member hlead _ _ _ _ _ _ _ _ =>
    exact ⟨_, '"', _, hlead, rfl, rfl, by decide, by decide⟩

/-- What comes next where a part starts. -/
theorem WellFormed.next? {p : Part} {cs : List Char} (h : WellFormed p cs) (rest : Source) :
    ∃ c r, Source.isBlank (.char c) = false ∧ c ≠ ']' ∧ c ≠ '\x7d' ∧
      ∃ h, Source.next? (ofChars cs ++ rest) = some (.char c, ⟨r, h⟩) := by
  obtain ⟨lead, c, ds, hlead, rfl, hc, hbracket, hbrace⟩ := h.starts
  have hnext := Source.next?_blank hlead hc (ofChars ds ++ rest)
  have hsource : ofChars lead ++ .char c :: (ofChars ds ++ rest) = ofChars (lead ++ c :: ds) ++ rest := by
    simp
  rw [hsource] at hnext
  exact ⟨c, _, hc, hbracket, hbrace, hnext⟩

/-- The part is passed over. -/
def Part.Passed : Part → List Char → Prop
  | value, cs => ∀ blanks, Blank blanks → ∀ rest, EndsNumeral rest →
      Passes (skipValue (ofChars blanks ++ (ofChars cs ++ rest))) rest
  | elements, cs => ∀ rest, Passes (skipElements (ofChars cs ++ .char ']' :: rest)) rest
  | members, cs => ∀ rest, Passes (skipMembers (ofChars cs ++ .char '\x7d' :: rest)) rest

/-- What follows a value inside a list or an object ends a numeral. -/
theorem endsNumeral_trail {trail : List Char} (htrail : Blank trail) {c : Char}
    (hc : c ∈ [',', ']', '\x7d']) (r : Source) : EndsNumeral (ofChars trail ++ .char c :: r) :=
  endsNumeral_blank htrail (endsNumeral_cons hc r)

theorem ofChars_memberText (lead name gap pad value trail : List Char) (rest : Source) :
    ofChars (memberText lead name gap pad value trail) ++ rest =
      ofChars lead ++ .char '"' :: (ofChars name ++ .char '"' :: (ofChars gap ++ .char ':' ::
        (ofChars pad ++ (ofChars value ++ (ofChars trail ++ rest))))) := by
  simp [memberText, enclosed]

theorem passed_literal {c : Char} {letters : List Char} (hword : (c, letters) ∈ literals)
    (hc : Source.isBlank (.char c) = false) : Part.value.Passed (c :: letters) := by
  intro blanks hblanks rest _
  obtain ⟨_, hnext⟩ := Source.next?_blank hblanks hc (ofChars letters ++ rest)
  obtain ⟨_, hread⟩ := readWord_ofChars letters rest
  exact passes_word hword hnext hread

/-- **Passing over.** Whatever is well formed is passed over, exactly to its end. -/
theorem WellFormed.passes {p : Part} {cs : List Char} (h : WellFormed p cs) : p.Passed cs := by
  induction h with
  | null | yes | no => exact passed_literal (by simp [literals]) rfl
  | numeral hnumeral =>
    intro blanks hblanks rest hrest
    have hpass := hnumeral.passes hrest
    obtain ⟨c, ds, rfl, hc⟩ := hnumeral.starts
    obtain ⟨_, hnext⟩ := Source.next?_blank hblanks (isBlank_of_isDigit hc) (ofChars ds ++ rest)
    exact passes_numeral (by simp [digit?_char hc]) hnext hpass
  | @negative cs hnumeral =>
    intro blanks hblanks rest hrest
    obtain ⟨_, hnext⟩ := Source.next?_blank hblanks (g := .char '-') rfl (ofChars cs ++ rest)
    exact passes_negative hnext (hnumeral.passes hrest)
  | @text cs hstring =>
    intro blanks hblanks rest _
    obtain ⟨_, hnext⟩ := Source.next?_blank hblanks (g := .char '"') rfl (ofChars cs ++ .char '"' :: rest)
    rw [ofChars_enclosed]
    exact passes_text hnext (hstring.passes rest)
  | @emptyList gap hgap =>
    intro blanks hblanks rest _
    obtain ⟨_, hend⟩ := Source.next?_blank hgap (g := .char ']') rfl rest
    obtain ⟨_, hnext⟩ := Source.next?_blank hblanks (g := .char '[') rfl (ofChars gap ++ .char ']' :: rest)
    rw [ofChars_bracketed]
    exact passes_emptyList hnext hend
  | @list cs hcs ih =>
    intro blanks hblanks rest _
    obtain ⟨c, r, hc, hbracket, -, _, hfirst⟩ := hcs.next? (.char ']' :: rest)
    obtain ⟨_, hnext⟩ := Source.next?_blank hblanks (g := .char '[') rfl (ofChars cs ++ .char ']' :: rest)
    rw [ofChars_bracketed]
    exact passes_list hnext hfirst (fun heq => hbracket (Glyph.char.inj heq)) (ih rest)
  | @emptyObject gap hgap =>
    intro blanks hblanks rest _
    obtain ⟨_, hend⟩ := Source.next?_blank hgap (g := .char '\x7d') rfl rest
    obtain ⟨_, hnext⟩ := Source.next?_blank hblanks (g := .char '\x7b') rfl
      (ofChars gap ++ .char '\x7d' :: rest)
    rw [ofChars_bracketed]
    exact passes_emptyObject hnext hend
  | @object cs hcs ih =>
    intro blanks hblanks rest _
    obtain ⟨c, r, hc, -, hbrace, _, hfirst⟩ := hcs.next? (.char '\x7d' :: rest)
    obtain ⟨_, hnext⟩ := Source.next?_blank hblanks (g := .char '\x7b') rfl
      (ofChars cs ++ .char '\x7d' :: rest)
    rw [ofChars_bracketed]
    exact passes_object hnext hfirst (fun heq => hbrace (Glyph.char.inj heq)) (ih rest)
  | @lastElement lead value trail hlead _ htrail ih =>
    intro rest
    have hvalue := ih lead hlead (ofChars trail ++ .char ']' :: rest)
      (endsNumeral_trail htrail (by simp) rest)
    obtain ⟨_, hend⟩ := Source.next?_blank htrail (g := .char ']') rfl rest
    have hsource : ofChars (lead ++ (value ++ trail)) ++ .char ']' :: rest =
        ofChars lead ++ (ofChars value ++ (ofChars trail ++ .char ']' :: rest)) := by
      simp
    rw [hsource]
    exact passes_lastElement hvalue hend
  | @element lead value trail cs hlead _ htrail _ ih ihs =>
    intro rest
    have hvalue := ih lead hlead (ofChars trail ++ .char ',' :: (ofChars cs ++ .char ']' :: rest))
      (endsNumeral_trail htrail (by simp) _)
    obtain ⟨_, hcomma⟩ := Source.next?_blank htrail (g := .char ',') rfl (ofChars cs ++ .char ']' :: rest)
    have hsource : ofChars (lead ++ (value ++ (trail ++ ',' :: cs))) ++ .char ']' :: rest =
        ofChars lead ++ (ofChars value ++
          (ofChars trail ++ .char ',' :: (ofChars cs ++ .char ']' :: rest))) := by
      simp
    rw [hsource]
    exact passes_element hvalue hcomma (ihs rest)
  | @lastMember lead name gap pad value trail hlead hname hgap hpad _ htrail ih =>
    intro rest
    have hvalue := ih pad hpad (ofChars trail ++ .char '\x7d' :: rest)
      (endsNumeral_trail htrail (by simp) rest)
    obtain ⟨_, hquote⟩ := Source.next?_blank hlead (g := .char '"') rfl _
    obtain ⟨_, hend⟩ := Source.next?_blank htrail (g := .char '\x7d') rfl rest
    rw [ofChars_memberText]
    exact passes_lastMember hquote (hname.passes _) (Record.readColon_blank hgap _) hvalue hend
  | @member lead name gap pad value trail cs hlead hname hgap hpad _ htrail _ ih ihs =>
    intro rest
    have hvalue := ih pad hpad (ofChars trail ++ .char ',' :: (ofChars cs ++ .char '\x7d' :: rest))
      (endsNumeral_trail htrail (by simp) _)
    obtain ⟨_, hquote⟩ := Source.next?_blank hlead (g := .char '"') rfl _
    obtain ⟨_, hcomma⟩ := Source.next?_blank htrail (g := .char ',') rfl
      (ofChars cs ++ .char '\x7d' :: rest)
    have hsource : ofChars (trail ++ ',' :: cs) ++ .char '\x7d' :: rest =
        ofChars trail ++ .char ',' :: (ofChars cs ++ .char '\x7d' :: rest) := by
      simp
    rw [ofChars_memberText, hsource]
    exact passes_member hquote (hname.passes _) (Record.readColon_blank hgap _) hvalue hcomma (ihs rest)

end ObjectVolume.Json
