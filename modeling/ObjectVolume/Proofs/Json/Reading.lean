import ObjectVolume.Json.Scalar
import ObjectVolume.Json.Value
/-!
# What was written is read back

Strings and lists of strings are read as what they spell (`Spells`, `SpellsList`), whoever wrote them.
As they are written here, and integers with them, they are read back as what they were. Each is
followed by some rest of the source, which is left alone; only after a numeral it matters how the rest
starts (`EndsNumeral`).
-/
namespace ObjectVolume.Json

theorem bind_eq_ok {ε α β : Type} {x : Except ε α} {f : α → Except ε β} {b : β} :
    x >>= f = .ok b ↔ ∃ a, x = .ok a ∧ f a = .ok b := by
  cases x with
  | error e => exact ⟨nofun, nofun⟩
  | ok a => exact ⟨fun h => ⟨a, rfl, h⟩, fun ⟨_, ha, h⟩ => by cases ha; exact h⟩

/-- The reading at `s` gives `a` and ends before `r`. -/
def Reads {α : Type} {s : Source} (answer : Read α s) (a : α) (r : Source) : Prop :=
  ∃ h, answer = .ok (a, ⟨r, h⟩)

/-- What is passed over ends before `r`. -/
def Passes {s : Source} (answer : Except Failure (Shorter s)) (r : Source) : Prop :=
  ∃ h, answer = .ok ⟨r, h⟩

theorem Passes.unique {s : Source} {answer : Except Failure (Shorter s)} {q r : Source}
    (h : Passes answer q) (h' : Passes answer r) : q = r := by
  obtain ⟨_, h⟩ := h
  obtain ⟨_, h'⟩ := h'
  cases h.symm.trans h'
  rfl

section Steps

variable {α β : Type} {s r : Source}

theorem reads_bind {x : Except Failure β} {f : β → Read α s} {a : α} :
    Reads (x >>= f) a r ↔ ∃ b, x = .ok b ∧ Reads (f b) a r := by
  unfold Reads
  simp only [bind_eq_ok]
  exact ⟨fun ⟨h, b, hx, hf⟩ => ⟨b, hx, h, hf⟩, fun ⟨b, hx, h, hf⟩ => ⟨h, b, hx, hf⟩⟩

theorem not_reads_error {e : Failure} {a : α} : ¬ Reads (s := s) (.error e) a r :=
  nofun

theorem Reads.rest_eq {a b : α} {t : Shorter s} (h : Reads (.ok (a, t)) b r) : t.val = r := by
  obtain ⟨_, h⟩ := h
  cases h
  rfl

end Steps

/-! ## Sources -/

namespace Source

/-- Characters as a source. -/
def ofChars (cs : List Char) : Source :=
  cs.map .char

@[simp]
theorem ofChars_nil : ofChars [] = [] := rfl

@[simp]
theorem ofChars_cons (c : Char) (cs : List Char) : ofChars (c :: cs) = .char c :: ofChars cs := rfl

@[simp]
theorem ofChars_append (cs ds : List Char) : ofChars (cs ++ ds) = ofChars cs ++ ofChars ds :=
  List.map_append

theorem ofBytesFrom_utf8Encode (before : ByteArray) (cs : List Char) :
    ofBytesFrom (before ++ cs.utf8Encode) before.size = ofChars cs := by
  induction cs generalizing before with
  | nil =>
    rw [ofBytesFrom]
    simp
  | cons c cs ih =>
    have hsplit : before ++ (c :: cs).utf8Encode = (before ++ [c].utf8Encode) ++ cs.utf8Encode := by
      rw [List.utf8Encode_cons, ByteArray.append_assoc]
    have hsize : [c].utf8Encode.size = c.utf8Size := by
      simp [List.utf8Encode_singleton]
    have hnext : before.size + c.utf8Size = (before ++ [c].utf8Encode).size := by
      rw [ByteArray.size_append, hsize]
    have hlt : before.size < (before ++ (c :: cs).utf8Encode).size := by
      have := c.utf8Size_pos
      rw [hsplit, ByteArray.size_append, ← hnext]
      omega
    have hdecode : (before ++ (c :: cs).utf8Encode).utf8DecodeChar? before.size = some c := by
      rw [ByteArray.utf8DecodeChar?_eq_utf8DecodeChar?_extract,
        ByteArray.extract_append_eq_right rfl ByteArray.size_append]
      exact List.utf8DecodeChar?_utf8Encode_cons
    rw [ofBytesFrom, dif_pos hlt]
    simp only [hdecode]
    rw [hsplit, hnext, ih (before ++ [c].utf8Encode), ofChars_cons]

/-- The bytes of a text are its characters. -/
theorem ofBytes_toUTF8 (cs : List Char) : ofBytes (String.ofList cs).toUTF8 = ofChars cs := by
  have h := ofBytesFrom_utf8Encode ByteArray.empty cs
  rw [ByteArray.empty_append] at h
  rw [String.toUTF8, String.toByteArray_ofList]
  exact h

/-- Only blanks. -/
def Blank (cs : List Char) : Prop :=
  ∀ c ∈ cs, isBlank (.char c) = true

instance (cs : List Char) : Decidable (Blank cs) :=
  List.decidableBAll _ cs

theorem blank_nil : Blank [] := by
  simp [Blank]

theorem Blank.append {cs ds : List Char} (h : Blank cs) (h' : Blank ds) : Blank (cs ++ ds) := by
  intro c hc
  rcases List.mem_append.1 hc with hc | hc
  · exact h c hc
  · exact h' c hc

theorem skipBlank_append {cs : List Char} (h : Blank cs) (s : Source) :
    skipBlank (ofChars cs ++ s) = skipBlank s := by
  induction cs with
  | nil => rfl
  | cons c cs ih =>
    have hc : isBlank (.char c) = true := h c List.mem_cons_self
    rw [ofChars_cons, List.cons_append, skipBlank, List.dropWhile_cons_of_pos hc]
    exact ih fun d hd => h d (List.mem_cons_of_mem _ hd)

theorem skipBlank_blank {cs : List Char} (h : Blank cs) : skipBlank (ofChars cs) = [] := by
  have hskip := skipBlank_append h []
  rwa [List.append_nil] at hskip

theorem skipBlank_cons {g : Glyph} (h : isBlank g = false) (r : Source) : skipBlank (g :: r) = g :: r :=
  List.dropWhile_cons_of_neg (by simp [h])

theorem next?_of_skipBlank {s r : Source} {g : Glyph} (h : skipBlank s = g :: r) :
    s.next? = some (g, ⟨r, length_lt_of_skipBlank h⟩) := by
  unfold next?
  split
  next h' => rw [h] at h'; cases h'
  next g' r' h' =>
    rw [h] at h'
    cases h'
    rfl

/-- What comes next after blanks. -/
theorem next?_blank {cs : List Char} (h : Blank cs) {g : Glyph} (hg : isBlank g = false) (r : Source) :
    ∃ hr, (ofChars cs ++ g :: r).next? = some (g, ⟨r, hr⟩) :=
  ⟨_, next?_of_skipBlank ((skipBlank_append h _).trans (skipBlank_cons hg r))⟩

end Source

open Source (ofChars ofChars_nil ofChars_cons ofChars_append Blank)

/-! ## Strings -/

/-- The three ways to write a character. -/
theorem escape_cases (c : Char) :
    (∃ d, escape c = ['\\', d] ∧ simpleEscape d = some c) ∨
      (escape c = ['\\', 'u', '0', '0', hexDigit (c.toNat / 16), hexDigit (c.toNat % 16)] ∧
        c.toNat < 0x20) ∨
      (escape c = [c] ∧ c ≠ '"' ∧ c ≠ '\\' ∧ 0x20 ≤ c.toNat) := by
  unfold escape
  split
  next hc => rcases hc with rfl | rfl <;> exact .inl ⟨_, rfl, rfl⟩
  next hquoted =>
  split
  next hc => exact .inl ⟨'b', rfl, hc ▸ rfl⟩
  split
  next hc => exact .inl ⟨'f', rfl, hc ▸ rfl⟩
  split
  next hc => exact .inl ⟨'n', rfl, hc ▸ rfl⟩
  split
  next hc => exact .inl ⟨'r', rfl, hc ▸ rfl⟩
  split
  next hc => exact .inl ⟨'t', rfl, hc ▸ rfl⟩
  split
  next hcontrol => exact .inr (.inl ⟨rfl, hcontrol⟩)
  next hplain =>
    obtain ⟨hquote, hbackslash⟩ := not_or.1 hquoted
    exact .inr (.inr ⟨rfl, hquote, hbackslash, Nat.le_of_not_lt hplain⟩)

/-- Four digits are enough for any control character. -/
theorem hexValue4_control : ∀ n < 0x20,
    hexValue4 '0' '0' (hexDigit (n / 16)) (hexDigit (n % 16)) = some n := by
  decide

/-- What stands between the quotes of a string, and the characters that it spells. -/
inductive Spells : List Char → List Char → Prop
  | nil : Spells [] []
  | plain {c cs ds} : c ≠ '"' → c ≠ '\\' → 0x20 ≤ c.toNat → Spells cs ds → Spells (c :: cs) (c :: ds)
  | escape {e c cs ds} : simpleEscape e = some c → Spells cs ds → Spells ('\\' :: e :: cs) (c :: ds)
  | unicode {a b c d n cs ds} : hexValue4 a b c d = some n → isHighSurrogate n = false →
      isLowSurrogate n = false → Spells cs ds →
      Spells ('\\' :: 'u' :: a :: b :: c :: d :: cs) (Char.ofNat n :: ds)
  | surrogates {a b c d high a' b' c' d' low cs ds} : hexValue4 a b c d = some high →
      isHighSurrogate high = true → hexValue4 a' b' c' d' = some low → isLowSurrogate low = true →
      Spells cs ds →
      Spells ('\\' :: 'u' :: a :: b :: c :: d :: '\\' :: 'u' :: a' :: b' :: c' :: d' :: cs)
        (ofSurrogates high low :: ds)

theorem isLowSurrogate_of_isHighSurrogate {n : Nat} (h : isHighSurrogate n = true) :
    isLowSurrogate n = false := by
  simp only [isHighSurrogate, isLowSurrogate, Bool.and_eq_true, Bool.and_eq_false_iff, decide_eq_true_eq,
    decide_eq_false_iff_not] at h ⊢
  omega

/-- **Strings of text** are read as what they spell. -/
theorem Spells.reads {cs ds : List Char} (h : Spells cs ds) (rest : Source) :
    Reads (readCharacters none (ofChars cs ++ .char '"' :: rest)) ds rest := by
  induction h with
  | nil =>
    rw [ofChars_nil, List.nil_append, readCharacters]
    exact ⟨_, rfl⟩
  | plain hquote hbackslash hplain _ ih =>
    obtain ⟨hlt, ih⟩ := ih
    rw [ofChars_cons, List.cons_append, readCharacters]
    · simp only [ih, if_neg (Nat.not_lt_of_le hplain), bind, Except.bind, pure, Except.pure]
      exact ⟨_, rfl⟩
    · exact hquote
    · exact hbackslash
  | @escape e c cs ds he _ ih =>
    obtain ⟨hlt, ih⟩ := ih
    have hu : e ≠ 'u' := by
      rintro rfl
      cases he
    simp only [ofChars_cons, List.cons_append]
    rw [readCharacters]
    simp only [readEscape, he, ih, bind, Except.bind, pure, Except.pure]
    exact ⟨_, rfl⟩
  | unicode hn hhigh hlow _ ih =>
    obtain ⟨hlt, ih⟩ := ih
    simp only [ofChars_cons, List.cons_append]
    rw [readCharacters]
    simp only [readEscape, readHex, hn, hhigh, hlow, ih, bind, Except.bind, pure, Except.pure,
      Bool.false_eq_true, if_false]
    exact ⟨_, rfl⟩
  | surrogates hhigh hishigh hlow hislow _ ih =>
    obtain ⟨hlt, ih⟩ := ih
    have hnotlow := isLowSurrogate_of_isHighSurrogate hishigh
    simp only [ofChars_cons, List.cons_append]
    rw [readCharacters]
    simp only [readEscape, readHex, hhigh, hnotlow, hishigh, readLowSurrogate, hlow, hislow, ih, bind,
      Except.bind, pure, Except.pure, Bool.false_eq_true, if_false, if_true]
    exact ⟨_, rfl⟩

theorem Spells.readString {cs : List Char} {t : String} (h : Spells cs t.toList) (rest : Source) :
    Reads (readString (ofChars cs ++ .char '"' :: rest)) t rest := by
  obtain ⟨hlt, hread⟩ := h.reads rest
  unfold Json.readString
  simp only [hread, bind, Except.bind, pure, Except.pure, String.ofList_toList]
  exact ⟨hlt, rfl⟩

/-- A character as it is written spells itself. -/
theorem Spells.escaped {cs ds : List Char} (h : Spells cs ds) (c : Char) :
    Spells (Json.escape c ++ cs) (c :: ds) := by
  rcases escape_cases c with ⟨d, he, hd⟩ | ⟨he, hcontrol⟩ | ⟨he, hquote, hbackslash, hplain⟩
  · rw [he]
    exact .escape hd h
  · have hlow : isLowSurrogate c.toNat = false := by
      simp only [isLowSurrogate, Bool.and_eq_false_iff, decide_eq_false_iff_not]
      omega
    have hhigh : isHighSurrogate c.toNat = false := by
      simp only [isHighSurrogate, Bool.and_eq_false_iff, decide_eq_false_iff_not]
      omega
    have hunicode := Spells.unicode (hexValue4_control c.toNat hcontrol) hhigh hlow h
    rw [Char.ofNat_toNat] at hunicode
    rw [he]
    exact hunicode
  · rw [he]
    exact .plain hquote hbackslash hplain h

/-- A text as it is written spells itself. -/
theorem spells_escape (t : String) : Spells (t.toList.flatMap escape) t.toList := by
  induction t.toList with
  | nil => exact .nil
  | cons c cs ih =>
    rw [List.flatMap_cons]
    exact ih.escaped c

/-- The string between its quotes. -/
def enclosed (cs : List Char) : List Char :=
  '"' :: (cs ++ ['"'])

theorem ofChars_enclosed (cs : List Char) (rest : Source) :
    ofChars (enclosed cs) ++ rest = .char '"' :: (ofChars cs ++ .char '"' :: rest) := by
  simp [enclosed]

theorem quoted_eq (t : String) : quoted t = enclosed (t.toList.flatMap escape) := rfl

/-! ## Values that stand by themselves -/

/-- The letters of a word are passed. -/
theorem readWord_ofChars (letters : List Char) (rest : Source) :
    ∃ h, readWord letters (ofChars letters ++ rest) = .ok ⟨rest, h⟩ := by
  induction letters with
  | nil => exact ⟨_, rfl⟩
  | cons c cs ih =>
    obtain ⟨h, ih⟩ := ih
    have hstep : readWord (c :: cs) (ofChars (c :: cs) ++ rest) = if Glyph.char c = .char c then
        (readWord cs (ofChars cs ++ rest)).bind fun r => .ok ⟨r.1, Nat.le_succ_of_le r.2⟩
      else .error (.inside .expectedWord 1 (ofChars (c :: cs) ++ rest)) := rfl
    rw [hstep, if_pos rfl, ih]
    exact ⟨_, rfl⟩

/-- A numeral that ends here does not go on. -/
def EndsNumeral (s : Source) : Prop :=
  ∀ g ∈ s.head?, g.digit? = none ∧ g ≠ .char '.' ∧ g ≠ .char 'e' ∧ g ≠ .char 'E'

/-- The characters are read as `a`, whatever blanks stand in front of them. -/
def ReadBack {α : Type} (read : (s : Source) → Read α s) (cs : List Char) (a : α) : Prop :=
  ∀ blanks, Blank blanks → ∀ rest, EndsNumeral rest →
    Reads (read (ofChars blanks ++ (ofChars cs ++ rest))) a rest

theorem Spells.readBack {cs : List Char} {t : String} (h : Spells cs t.toList) :
    ReadBack readText (enclosed cs) t := by
  intro blanks hblanks rest _
  obtain ⟨_, hread⟩ := h.readString rest
  obtain ⟨_, hnext⟩ := Source.next?_blank hblanks (g := .char '"') rfl (ofChars cs ++ .char '"' :: rest)
  rw [ofChars_enclosed]
  unfold readText
  rw [hnext]
  simp only [hread, bind, Except.bind, pure, Except.pure]
  exact ⟨_, rfl⟩

/-- **Strings** are read back. -/
theorem readBack_text (t : String) : ReadBack readText (quoted t) t :=
  (spells_escape t).readBack

/-! ## Integers -/

/-- What a digit counts. -/
def digitValue (c : Char) : Nat :=
  c.toNat - '0'.toNat

theorem digit?_char {c : Char} (h : c.isDigit = true) : (Glyph.char c).digit? = some (digitValue c) :=
  if_pos h

theorem spanDigits_ofChars {cs : List Char} (h : ∀ c ∈ cs, c.isDigit = true) {rest : Source}
    (hrest : ∀ g ∈ rest.head?, g.digit? = none) :
    ∃ hr, spanDigits (ofChars cs ++ rest) = (cs.map digitValue, ⟨rest, hr⟩) := by
  induction cs with
  | nil =>
    cases rest with
    | nil => exact ⟨Nat.le_refl _, rfl⟩
    | cons g r => exact ⟨Nat.le_refl _, by simp [spanDigits, hrest g rfl]⟩
  | cons c cs ih =>
    obtain ⟨hr, hspan⟩ := ih fun d hd => h d (List.mem_cons_of_mem _ hd)
    refine ⟨Nat.le_succ_of_le hr, ?_⟩
    simp [spanDigits, digit?_char (h c List.mem_cons_self), hspan]

/-- Without a point there is no fraction. -/
theorem readFraction_none (atEnd : Problem) {rest : Source} (hrest : ∀ g ∈ rest.head?, g ≠ .char '.') :
    readFraction atEnd rest = .ok ([], ⟨rest, Nat.le_refl _⟩) := by
  cases rest with
  | nil => rfl
  | cons g r =>
    rw [readFraction]
    exact fun r' heq => hrest g rfl (List.cons.inj heq).1

/-- Where a numeral ends there is no exponent. -/
theorem readExponent_none (atEnd : Problem) {rest : Source} (hrest : EndsNumeral rest) :
    readExponent atEnd rest = .ok (none, ⟨rest, Nat.le_refl _⟩) := by
  cases rest with
  | nil => rfl
  | cons g r =>
    obtain ⟨-, -, hlower, hupper⟩ := hrest g rfl
    cases g with
    | stray b => rfl
    | char c =>
      rw [readExponent, if_neg]
      rintro (rfl | rfl)
      · exact hlower rfl
      · exact hupper rfl

/-- The number of digits that are all taken. -/
theorem accumulate_eq {limit : Nat} {cs : List Char} {value : Nat}
    (h : Nat.ofDigitChars 10 cs value ≤ limit) :
    Numeral.accumulate limit value (cs.map digitValue) = (Nat.ofDigitChars 10 cs value, 0) := by
  have hle (cs : List Char) (v : Nat) : v ≤ Nat.ofDigitChars 10 cs v := by
    induction cs generalizing v with
    | nil => exact Nat.le_refl _
    | cons c cs ih =>
      have := ih (10 * v + digitValue c)
      rw [Nat.ofDigitChars_cons]
      exact Nat.le_trans (by omega) this
  induction cs generalizing value with
  | nil => rfl
  | cons c cs ih =>
    rw [Nat.ofDigitChars_cons] at h ⊢
    have hfits : value * 10 + digitValue c ≤ limit := by
      rw [Nat.mul_comm]
      exact Nat.le_trans (hle cs _) h
    rw [List.map_cons, Numeral.accumulate, if_pos hfits, Nat.mul_comm value]
    exact ih h

/-- No number but zero is written with a zero in front. -/
theorem head?_toDigits {n : Nat} (h : 0 < n) :
    ((Nat.toDigits 10 n).map digitValue).head? ≠ some 0 := by
  induction n using Nat.strongRecOn with
  | ind n ih =>
    rw [Nat.toDigits_eq_if (by decide)]
    split
    next hlt =>
      have hdigit : ∀ m < 10, 0 < m → digitValue m.digitChar ≠ 0 := by decide
      simpa using hdigit n hlt h
    next hge =>
      have hhead := ih (n / 10) (by omega) (by omega)
      have hne : (Nat.toDigits 10 (n / 10)).map digitValue ≠ [] := by
        simp [Nat.toDigits_ne_nil]
      rw [List.map_append]
      cases hdigits : (Nat.toDigits 10 (n / 10)).map digitValue with
      | nil => exact absurd hdigits hne
      | cons d ds =>
        rw [hdigits] at hhead
        exact hhead

/-- Digits are read as the number that they write. -/
theorem reads_numeral (negative : Bool) {n : Nat} (hn : n ≤ Numeral.maxSignificand) {rest : Source}
    (hrest : EndsNumeral rest) :
    Reads (readNumeral negative (ofChars (Nat.toDigits 10 n) ++ rest)) (Numeral.ofInteger negative n)
      rest := by
  have hdigit : ∀ c ∈ Nat.toDigits 10 n, c.isDigit = true := fun c hc =>
    Nat.isDigit_of_mem_toDigits (by decide) (by decide) hc
  have hwhole : Numeral.accumulate Numeral.maxSignificand 0 ((Nat.toDigits 10 n).map digitValue) =
      (n, 0) := by
    rw [accumulate_eq (by rwa [Nat.ofDigitChars_ten_toDigits]), Nat.ofDigitChars_ten_toDigits]
  have hleading : ¬ (((Nat.toDigits 10 n).map digitValue).head? = some 0 ∧
      ((Nat.toDigits 10 n).map digitValue).length > 1) := by
    rintro ⟨hhead, hlength⟩
    rcases Nat.eq_zero_or_pos n with rfl | hpos
    · simp [Nat.toDigits_of_lt_base] at hlength
    · exact head?_toDigits hpos hhead
  cases hd : Nat.toDigits 10 n with
  | nil => exact absurd hd Nat.toDigits_ne_nil
  | cons c cs =>
    rw [hd] at hdigit hwhole hleading
    obtain ⟨hr, hspan⟩ := spanDigits_ofChars (fun d hd => hdigit d (List.mem_cons_of_mem _ hd))
      fun g hg => (hrest g hg).1
    rw [List.map_cons] at hwhole hleading
    simp only [readNumeral, readParts, readDigits, ofChars_cons, List.cons_append,
      digit?_char (hdigit c List.mem_cons_self), hspan, if_neg hleading,
      readFraction_none _ fun g hg => (hrest g hg).2.1, readExponent_none _ hrest,
      bind, Except.bind, pure, Except.pure, Numeral.Parts.value, hwhole]
    exact ⟨_, rfl⟩

theorem integerText_ofNat (n : Nat) : integerText (.ofNat n) = Nat.toDigits 10 n :=
  String.toList_ofList

theorem integerText_negSucc (n : Nat) :
    integerText (.negSucc n) = '-' :: Nat.toDigits 10 (n + 1) := by
  change ("-" ++ String.ofList (Nat.toDigits 10 (n + 1))).toList = _
  simp

theorem isBlank_of_isDigit {c : Char} (h : c.isDigit = true) : Source.isBlank (.char c) = false := by
  have hne (d : Char) (hd : d.isDigit = false) : (Glyph.char c == .char d) = false := by
    rw [beq_eq_false_iff_ne]
    intro heq
    rw [Glyph.char.inj heq, hd] at h
    cases h
  simp [Source.isBlank, hne ' ' rfl, hne '\n' rfl, hne '\t' rfl, hne '\r' rfl]

/-- **Integers** are read back, if they are of the kind that is read and have 64 bits. -/
theorem readBack_integer {k : IntegerKind} {n : Int} (accepted : k.least ≤ n ∧ n ≤ k.greatest)
    (fits : -(UInt64.size / 2 : Nat) ≤ n ∧ n ≤ Numeral.maxSignificand) :
    ReadBack (readInteger k) (integerText n) n := by
  intro blanks hblanks rest hrest
  have haccept (s : Source) : k.accept (.integer n) s = .ok n := if_pos accepted
  cases n with
  | ofNat n =>
    have hvalue : Numeral.ofInteger false n = .integer (.ofNat n) := rfl
    rw [integerText_ofNat]
    have hnumeral := reads_numeral false (Int.ofNat_le.1 fits.2) hrest
    cases hd : Nat.toDigits 10 n with
    | nil => exact absurd hd Nat.toDigits_ne_nil
    | cons c cs =>
      have hc : c.isDigit = true :=
        Nat.isDigit_of_mem_toDigits (by decide) (by decide) (hd ▸ List.mem_cons_self)
      have hsign : Glyph.char c ≠ .char '-' := by
        intro heq
        rw [Glyph.char.inj heq] at hc
        cases hc
      obtain ⟨hlt', hnext⟩ := Source.next?_blank hblanks (isBlank_of_isDigit hc) (ofChars cs ++ rest)
      rw [hd, ofChars_cons, List.cons_append] at hnumeral
      obtain ⟨hlt, hread⟩ := hnumeral
      rw [ofChars_cons, List.cons_append]
      unfold readInteger
      rw [hnext]
      simp only [if_neg hsign, digit?_char hc, Option.isSome_some, if_true, hread, hvalue,
        haccept rest, bind, Except.bind, pure, Except.pure]
      exact ⟨_, rfl⟩
  | negSucc n =>
    have hsmall : n + 1 ≤ UInt64.size / 2 := by
      have := fits.1
      omega
    have hmax : n + 1 ≤ Numeral.maxSignificand := by
      simp only [UInt64.size, Numeral.maxSignificand] at hsmall ⊢
      omega
    have hvalue : Numeral.ofInteger true (n + 1) = .integer (.negSucc n) := by
      rw [Numeral.ofInteger, if_neg (by simp), if_neg (by omega)]
      rfl
    obtain ⟨hlt, hread⟩ := reads_numeral true hmax hrest
    obtain ⟨hlt', hnext⟩ := Source.next?_blank hblanks (g := .char '-') rfl
      (ofChars (Nat.toDigits 10 (n + 1)) ++ rest)
    rw [integerText_negSucc, ofChars_cons, List.cons_append]
    unfold readInteger
    rw [hnext]
    simp only [hread, hvalue, haccept rest, if_true, bind, Except.bind, pure, Except.pure]
    exact ⟨_, rfl⟩

/-! ## Lists -/

/-- The entries after the first one of a list or an object, with the same blanks before each. -/
def following (gap : List Char) (entries : List (List Char)) : List Char :=
  entries.flatMap fun e => ',' :: (gap ++ e)

/-- The entries of a list or an object, with the same blanks before each. -/
def separated (gap : List Char) : List (List Char) → List Char
  | [] => []
  | e :: es => gap ++ (e ++ following gap es)

theorem separated_eq (gap : List Char) {entries : List (List Char)} (h : entries ≠ []) :
    separated gap entries = gap ++ (',' :: gap).intercalate entries := by
  obtain ⟨e, es, rfl⟩ := List.exists_cons_of_ne_nil h
  rw [separated]
  congr 1
  induction es generalizing e with
  | nil => simp [following]
  | cons e' es ih =>
    rw [List.intercalate_cons_cons, ← ih e' (by simp)]
    simp [following]

theorem compactElements_eq (vs : List Value) :
    Value.compactElements vs = separated [] (vs.map Value.compact) := by
  induction vs with
  | nil => rfl
  | cons v vs ih =>
    cases vs with
    | nil => simp [Value.compactElements, separated, following]
    | cons w vs =>
      rw [Value.compactElements, ih]
      · simp [separated, following]
      · simp

theorem compactMembers_eq (ms : List (String × Value)) :
    Value.compactMembers ms = separated [] (ms.map fun m => quoted m.1 ++ ':' :: m.2.compact) := by
  induction ms with
  | nil => rfl
  | cons m ms ih =>
    cases ms with
    | nil => simp [Value.compactMembers, separated, following]
    | cons n ms =>
      rw [Value.compactMembers, ih]
      · simp [separated, following]
      · simp

theorem indentedElements_eq (depth : Nat) (vs : List Value) :
    Value.indentedElements depth vs =
      separated (Value.newline (depth + 1)) (vs.map (Value.indentedAt (depth + 1))) := by
  induction vs with
  | nil => rfl
  | cons v vs ih =>
    cases vs with
    | nil => simp [Value.indentedElements, separated, following]
    | cons w vs =>
      rw [Value.indentedElements, ih]
      · simp [separated, following]
      · simp

theorem indentedMembers_eq (depth : Nat) (ms : List (String × Value)) :
    Value.indentedMembers depth ms = separated (Value.newline (depth + 1))
      (ms.map fun m => quoted m.1 ++ ':' :: ' ' :: m.2.indentedAt (depth + 1)) := by
  induction ms with
  | nil => rfl
  | cons m ms ih =>
    cases ms with
    | nil => simp [Value.indentedMembers, separated, following]
    | cons n ms =>
      rw [Value.indentedMembers, ih]
      · simp [separated, following]
      · simp

theorem indentedAt_text (depth : Nat) (s : String) :
    Value.indentedAt depth (.text s) = quoted s := by
  rw [Value.indentedAt]

theorem indentedAt_integer (depth : Nat) (n : Int) :
    Value.indentedAt depth (.integer n) = integerText n := by
  rw [Value.indentedAt]

theorem endsNumeral_cons {c : Char} (hc : c ∈ [',', ']', '\x7d']) (r : Source) :
    EndsNumeral (.char c :: r) := by
  intro g hg
  cases hg
  simp only [List.mem_cons, List.not_mem_nil, or_false] at hc
  rcases hc with rfl | rfl | rfl <;> decide

theorem isBlank_iff {c : Char} : Source.isBlank (.char c) = true ↔ c ∈ [' ', '\n', '\t', '\r'] := by
  simp [Source.isBlank, or_assoc]

/-- A numeral ends where the blanks in front of a closing bracket start. -/
theorem endsNumeral_blank {cs : List Char} (h : Blank cs) {s : Source} (hs : EndsNumeral s) :
    EndsNumeral (ofChars cs ++ s) := by
  cases cs with
  | nil => exact hs
  | cons c cs =>
    intro g hg
    cases hg
    have hblank := isBlank_iff.1 (h c List.mem_cons_self)
    simp only [List.mem_cons, List.not_mem_nil, or_false] at hblank
    rcases hblank with rfl | rfl | rfl | rfl <;> decide

/-- The first element of a list starts after the blanks. -/
theorem nextElement_true {gap : List Char} (hgap : Blank gap) {g : Glyph}
    (hg : Source.isBlank g = false) (hend : g ≠ .char ']') (r : Source) :
    ∃ h, nextElement true (ofChars gap ++ g :: r) = .ok (some ⟨g :: r, h⟩) := by
  obtain ⟨hlt, hnext⟩ := Source.next?_blank hgap hg r
  refine ⟨hlt, ?_⟩
  unfold nextElement
  rw [hnext]
  simp only [if_neg hend, if_true]

/-- Any other element starts after a comma and blanks. -/
theorem nextElement_false {close gap : List Char} (hclose : Blank close) (hgap : Blank gap) {g : Glyph}
    (hg : Source.isBlank g = false) (hend : g ≠ .char ']') (r : Source) :
    ∃ h, nextElement false (ofChars close ++ .char ',' :: (ofChars gap ++ g :: r)) =
      .ok (some ⟨g :: r, h⟩) := by
  obtain ⟨hlt, hcomma⟩ := Source.next?_blank hclose (g := .char ',') rfl (ofChars gap ++ g :: r)
  obtain ⟨hlt', hnext⟩ := Source.next?_blank hgap hg r
  refine ⟨Source.shorter_trans hlt hlt', ?_⟩
  unfold nextElement
  rw [hcomma]
  simp only [hnext, if_neg hend, if_neg (show Glyph.char ',' ≠ .char ']' by decide),
    Bool.false_eq_true, if_false, if_true]

/-- An element of a list of strings, and those after it. -/
theorem Reads.texts {first : Bool} {s r after rest : Source} {t : String} {ts : List String}
    (hnext : ∃ h, nextElement first s = .ok (some ⟨r, h⟩)) (htext : Reads (readText r) t after)
    (h : Reads (readTexts false after) ts rest) : Reads (readTexts first s) (t :: ts) rest := by
  obtain ⟨hlt, hnext⟩ := hnext
  obtain ⟨hlt', htext⟩ := htext
  obtain ⟨hlt'', hrest⟩ := h
  rw [readTexts]
  simp only [hnext, htext, hrest, bind, Except.bind, pure, Except.pure]
  exact ⟨_, rfl⟩

/-- The end of a list. -/
theorem reads_noTexts (first : Bool) {close : List Char} (hclose : Blank close) (rest : Source) :
    Reads (readTexts first (ofChars close ++ .char ']' :: rest)) [] rest := by
  obtain ⟨hlt, hnext⟩ := Source.next?_blank hclose (g := .char ']') rfl rest
  rw [readTexts]
  simp only [nextElement, hnext, endList, if_true, bind, Except.bind, pure, Except.pure]
  exact ⟨_, rfl⟩

/-- What stands between brackets, and what follows them. -/
theorem ofChars_bracketed (left right : Char) (cs : List Char) (rest : Source) :
    ofChars (left :: (cs ++ [right])) ++ rest = .char left :: (ofChars cs ++ .char right :: rest) := by
  simp

/-- A list is read back if what stands between its brackets is. -/
theorem ReadBack.bracketed {cs : List Char} {ts : List String}
    (h : ∀ rest, Reads (readTexts true (ofChars cs ++ .char ']' :: rest)) ts rest) :
    ReadBack readTextList ('[' :: (cs ++ [']'])) ts := by
  intro blanks hblanks rest _
  obtain ⟨hlt, htexts⟩ := h rest
  obtain ⟨hlt', hnext⟩ := Source.next?_blank hblanks (g := .char '[') rfl (ofChars cs ++ .char ']' :: rest)
  rw [ofChars_bracketed]
  unfold readTextList
  rw [hnext]
  simp only [htexts, if_true, bind, Except.bind, pure, Except.pure]
  exact ⟨_, rfl⟩

/-- What stands between the brackets of a list of texts that is not empty. -/
inductive SpellsTexts : List Char → List String → Prop
  | last {lead cs trail t} : Blank lead → Spells cs t.toList → Blank trail →
      SpellsTexts (lead ++ (enclosed cs ++ trail)) [t]
  | cons {lead cs trail ds t ts} : Blank lead → Spells cs t.toList → Blank trail → SpellsTexts ds ts →
      SpellsTexts (lead ++ (enclosed cs ++ (trail ++ ',' :: ds))) (t :: ts)

/-- A list of texts, and the texts that it spells. -/
inductive SpellsList : List Char → List String → Prop
  | empty {gap} : Blank gap → SpellsList ('[' :: (gap ++ [']'])) []
  | texts {cs ts} : SpellsTexts cs ts → SpellsList ('[' :: (cs ++ [']'])) ts

/-- The first text of a list and those after it, from the start of the list on or after a comma. -/
theorem SpellsTexts.reads {cs : List Char} {ts : List String} (h : SpellsTexts cs ts) (rest : Source) :
    Reads (readTexts true (ofChars cs ++ .char ']' :: rest)) ts rest ∧
      ∀ close, Blank close →
        Reads (readTexts false (ofChars close ++ .char ',' :: (ofChars cs ++ .char ']' :: rest)))
          ts rest := by
  induction h with
  | @last lead cs trail t hlead hspells htrail =>
    have htext := hspells.readBack [] Source.blank_nil (ofChars trail ++ .char ']' :: rest)
      (endsNumeral_blank htrail (endsNumeral_cons (by decide) rest))
    have hend := reads_noTexts false htrail rest
    have hsource : ofChars (lead ++ (enclosed cs ++ trail)) ++ .char ']' :: rest =
        ofChars lead ++ (ofChars (enclosed cs) ++ (ofChars trail ++ .char ']' :: rest)) := by
      simp
    rw [hsource]
    refine ⟨Reads.texts (nextElement_true hlead rfl (by decide) _) htext hend, fun close hclose =>
      Reads.texts (nextElement_false hclose hlead rfl (by decide) _) htext hend⟩
  | @cons lead cs trail ds t ts hlead hspells htrail _ ih =>
    have htext := hspells.readBack [] Source.blank_nil
      (ofChars trail ++ .char ',' :: (ofChars ds ++ .char ']' :: rest))
      (endsNumeral_blank htrail (endsNumeral_cons (by decide) _))
    have hrest := ih.2 trail htrail
    have hsource : ofChars (lead ++ (enclosed cs ++ (trail ++ ',' :: ds))) ++ .char ']' :: rest =
        ofChars lead ++ (ofChars (enclosed cs) ++
          (ofChars trail ++ .char ',' :: (ofChars ds ++ .char ']' :: rest))) := by
      simp
    rw [hsource]
    refine ⟨Reads.texts (nextElement_true hlead rfl (by decide) _) htext hrest, fun close hclose =>
      Reads.texts (nextElement_false hclose hlead rfl (by decide) _) htext hrest⟩

theorem SpellsList.readBack {cs : List Char} {ts : List String} (h : SpellsList cs ts) :
    ReadBack readTextList cs ts := by
  cases h with
  | empty hgap => exact .bracketed fun rest => reads_noTexts true hgap rest
  | texts htexts => exact .bracketed fun rest => (htexts.reads rest).1

/-- Texts as they are written, with the same blanks before each, spell themselves. -/
theorem spellsTexts_separated {gap close : List Char} (hgap : Blank gap) (hclose : Blank close)
    (t : String) (ts : List String) :
    SpellsTexts (separated gap ((t :: ts).map quoted) ++ close) (t :: ts) := by
  induction ts generalizing t with
  | nil =>
    have hlast := SpellsTexts.last hgap (spells_escape t) hclose
    simpa [separated, following, quoted_eq] using hlast
  | cons u us ih =>
    have hcons := SpellsTexts.cons hgap (spells_escape t) Source.blank_nil (ih u)
    simpa [separated, following, quoted_eq] using hcons

/-- **Lists of strings** are read back. -/
theorem readBack_textList {gap close : List Char} (hgap : Blank gap) (hclose : Blank close)
    (ts : List String) :
    ReadBack readTextList ('[' :: (separated gap (ts.map quoted) ++ (close ++ [']']))) ts := by
  rw [← List.append_assoc]
  cases ts with
  | nil => exact (SpellsList.empty hclose).readBack
  | cons t ts => exact (SpellsList.texts (spellsTexts_separated hgap hclose t ts)).readBack

/-- What is read as nothing. -/
theorem readBack_null {α : Type} (read : (s : Source) → Read α s) :
    ReadBack (readOptional read) ['n', 'u', 'l', 'l'] none := by
  intro blanks hblanks rest _
  obtain ⟨hlt, hnext⟩ := Source.next?_blank hblanks (g := .char 'n') rfl
    (ofChars ['u', 'l', 'l'] ++ rest)
  rw [ofChars_cons, List.cons_append]
  unfold readOptional
  split
  next r h hstart =>
    rw [hnext] at hstart
    cases hstart
    obtain ⟨h, hword⟩ := readWord_ofChars ['u', 'l', 'l'] rest
    rw [hword]
    exact ⟨_, rfl⟩
  next hother => exact absurd hnext (hother _ _)

/-- What does not start like `null` is read as something. -/
theorem ReadBack.optional {α : Type} {read : (s : Source) → Read α s} {c : Char} {cs : List Char}
    {a : α} (h : ReadBack read (c :: cs) a) (hc : Source.isBlank (.char c) = false)
    (hnull : c ≠ 'n') : ReadBack (readOptional read) (c :: cs) (some a) := by
  intro blanks hblanks rest hrest
  have hread := h blanks hblanks rest hrest
  rw [ofChars_cons, List.cons_append] at hread ⊢
  obtain ⟨hlt, hread⟩ := hread
  obtain ⟨hlt', hnext⟩ := Source.next?_blank hblanks hc (ofChars cs ++ rest)
  have hsome : readOptional read (ofChars blanks ++ .char c :: (ofChars cs ++ rest)) =
      .ok (some a, ⟨rest, hlt⟩) := by
    unfold readOptional
    split
    next hstart =>
      rw [hnext] at hstart
      cases hstart
      exact absurd rfl hnull
    next => simp only [hread, bind, Except.bind, pure, Except.pure]
  exact ⟨hlt, hsome⟩

/-- A list starts with its bracket, whatever it holds. -/
theorem SpellsList.readBack_some {cs : List Char} {ts : List String} (h : SpellsList cs ts) :
    ReadBack (readOptional readTextList) cs (some ts) := by
  have hlist := h.readBack
  cases h with
  | empty _ => exact hlist.optional rfl (by decide)
  | texts _ => exact hlist.optional rfl (by decide)

end ObjectVolume.Json
