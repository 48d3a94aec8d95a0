import ObjectVolume.Proofs.Json.Grammar
/-!
# Where values end

The readers of texts, integers and lists of texts look closer at a value than `skipValue` does, but they
stop at the same place: what they read is passed over up to there (`ReadsValues`). A reader of a value of
the wrong kind gives no value at all.
-/
namespace ObjectVolume.Json

/-! ## Strings -/

section Strings

variable {s t r : Source}

theorem passes_of_readLowSurrogate {high : Nat} {c : Char} (h : Reads (readLowSurrogate high s) c t)
    (hpass : Passes (skipString t) r) : Passes (skipString s) r := by
  unfold readLowSurrogate at h
  split at h
  next => exact absurd h not_reads_error
  next => exact absurd h not_reads_error
  next s =>
    obtain ⟨⟨low, r₁, h₁⟩, hhex, h⟩ := reads_bind.1 h
    dsimp only at h
    split at h
    next =>
      obtain rfl : r₁ = t := h.rest_eq
      exact passes_escape (passes_hex ⟨_, hhex⟩) hpass
    next => exact absurd h not_reads_error
  next => exact absurd h not_reads_error
  next => exact absurd h not_reads_error

theorem passes_of_readEscape {c : Char} (h : Reads (readEscape s) c t)
    (hpass : Passes (skipString t) r) : Passes (skipString (.char '\\' :: s)) r := by
  unfold readEscape at h
  split at h
  next => exact absurd h not_reads_error
  next s =>
    obtain ⟨⟨n, r₁, h₁⟩, hhex, h⟩ := reads_bind.1 h
    dsimp only at h
    refine passes_escape (passes_hex ⟨_, hhex⟩) ?_
    split at h
    next => exact absurd h not_reads_error
    split at h
    next =>
      -- a pair of surrogates: the second half is passed over as an escape of its own
      obtain ⟨⟨c, r₂, h₂⟩, hlow, h⟩ := reads_bind.1 h
      obtain rfl : r₂ = t := h.rest_eq
      exact passes_of_readLowSurrogate ⟨_, hlow⟩ hpass
    next =>
      obtain rfl : r₁ = t := h.rest_eq
      exact hpass
  next c s _ =>
    split at h
    next d hd =>
      obtain rfl : s = t := h.rest_eq
      exact passes_escape (passes_simpleEscape (by simp [hd]) s) hpass
    next => exact absurd h not_reads_error
  next => exact absurd h not_reads_error

/-- Strings of text are passed over like any others. -/
theorem passes_of_readCharacters {stray : Option Nat} {cs : List Char}
    (h : Reads (readCharacters stray s) cs r) : Passes (skipString s) r := by
  fun_induction readCharacters stray s generalizing cs with
  | case1 | case3 | case5 => exact absurd h not_reads_error
  | case2 r' =>
    rw [← h.rest_eq]
    exact passes_quote r'
  | case4 stray s ih =>
    obtain ⟨⟨c, r₁, h₁⟩, hescape, h⟩ := reads_bind.1 h
    obtain ⟨⟨cs, r₂, h₂⟩, hread, h⟩ := reads_bind.1 h
    obtain rfl : r₂ = r := h.rest_eq
    exact passes_of_readEscape ⟨_, hescape⟩ (ih r₁ h₁ ⟨_, hread⟩)
  | case6 stray c s hquote hbackslash hplain ih =>
    obtain ⟨⟨cs, r₁, h₁⟩, hread, h⟩ := reads_bind.1 h
    obtain rfl : r₁ = r := h.rest_eq
    exact passes_plain hquote hbackslash (Nat.le_of_not_lt hplain) (ih ⟨_, hread⟩)
  | case7 stray b s ih =>
    obtain ⟨⟨cs, r₁, h₁⟩, hread, h⟩ := reads_bind.1 h
    obtain rfl : r₁ = r := h.rest_eq
    exact passes_stray b (ih ⟨_, hread⟩)

end Strings

/-! ## Numerals -/

section Numerals

variable {s r : Source} {p q : Problem}

/-- Which problem an early end is does not matter where there is none. -/
theorem readDigits_atEnd {a : List Nat × Shorter s} (h : readDigits p s = .ok a) :
    readDigits q s = .ok a := by
  cases s with
  | nil => cases h
  | cons g r => exact h

theorem readFraction_atEnd {a : List Nat × Upto s} (h : readFraction p s = .ok a) :
    readFraction q s = .ok a := by
  unfold readFraction at h ⊢
  split at h
  next r =>
    obtain ⟨⟨ds, r₁, h₁⟩, hread, h⟩ := bind_eq_ok.1 h
    exact bind_eq_ok.2 ⟨_, readDigits_atEnd hread, h⟩
  next => exact h

theorem readExponent_atEnd {a : Option (Bool × List Nat) × Upto s} (h : readExponent p s = .ok a) :
    readExponent q s = .ok a := by
  unfold readExponent at h ⊢
  split at h
  next c r =>
    split at h
    next hc =>
      obtain ⟨⟨ds, r₁, h₁⟩, hread, h⟩ := bind_eq_ok.1 h
      rw [if_pos hc]
      exact bind_eq_ok.2 ⟨_, readDigits_atEnd hread, h⟩
    next hc =>
      rw [if_neg hc]
      exact h
  next => exact h

theorem readParts_atEnd {a : Numeral.Parts × Shorter s} (h : readParts p s = .ok a) :
    readParts q s = .ok a := by
  unfold readParts at h ⊢
  obtain ⟨⟨whole, r₁, h₁⟩, hwhole, h⟩ := bind_eq_ok.1 h
  refine bind_eq_ok.2 ⟨_, readDigits_atEnd hwhole, ?_⟩
  dsimp only at h ⊢
  split at h
  next => cases h
  next hzero =>
    rw [if_neg hzero]
    obtain ⟨⟨fraction, r₂, h₂⟩, hfraction, h⟩ := bind_eq_ok.1 h
    obtain ⟨⟨exponent, r₃, h₃⟩, hexponent, h⟩ := bind_eq_ok.1 h
    exact bind_eq_ok.2 ⟨_, readFraction_atEnd hfraction,
      bind_eq_ok.2 ⟨_, readExponent_atEnd hexponent, h⟩⟩

theorem passes_of_readNumeral {negative : Bool} {n : Numeral} (h : Reads (readNumeral negative s) n r) :
    Passes (skipNumeral s) r := by
  obtain ⟨⟨parts, r₁, h₁⟩, hparts, h⟩ := reads_bind.1 h
  obtain ⟨_, -, h⟩ := reads_bind.1 h
  obtain rfl : r₁ = r := h.rest_eq
  unfold skipNumeral
  rw [readParts_atEnd hparts]
  exact ⟨_, rfl⟩

end Numerals

/-! ## Values -/

/-- What is read is a value, up to its end. -/
def ReadsValues {α : Type} (read : (s : Source) → Read α s) : Prop :=
  ∀ {s : Source} {a : α} {r : Source}, Reads (read s) a r → Passes (skipValue s) r

theorem next?_of_readText {s r : Source} {t : String} (h : Reads (readText s) t r) :
    ∃ q hq, s.next? = some (.char '"', ⟨q, hq⟩) ∧ Passes (skipString q) r := by
  unfold readText at h
  split at h
  next => exact absurd h not_reads_error
  next q hq hnext =>
    obtain ⟨⟨text, r₁, h₁⟩, hread, h⟩ := reads_bind.1 h
    obtain rfl : r₁ = r := h.rest_eq
    obtain ⟨⟨cs, r₂, h₂⟩, hcharacters, hread⟩ := bind_eq_ok.1 hread
    cases hread
    exact ⟨q, hq, hnext, passes_of_readCharacters ⟨_, hcharacters⟩⟩
  next => exact absurd h not_reads_error

theorem readsValues_text : ReadsValues readText := by
  intro s t r h
  obtain ⟨q, hq, hnext, hpass⟩ := next?_of_readText h
  exact passes_text hnext hpass

theorem readsValues_integer (k : IntegerKind) : ReadsValues (readInteger k) := by
  intro s n r h
  unfold readInteger at h
  split at h
  next => exact absurd h not_reads_error
  next g r' h' hnext =>
    split at h
    next hsign =>
      subst hsign
      obtain ⟨⟨n, r₁, h₁⟩, hnumeral, h⟩ := reads_bind.1 h
      obtain ⟨_, -, h⟩ := reads_bind.1 h
      obtain rfl : r₁ = r := h.rest_eq
      exact passes_negative hnext (passes_of_readNumeral ⟨_, hnumeral⟩)
    split at h
    next hdigit =>
      obtain ⟨⟨n, r₁, h₁⟩, hnumeral, h⟩ := reads_bind.1 h
      obtain ⟨_, -, h⟩ := reads_bind.1 h
      obtain rfl : r₁ = r := h.rest_eq
      exact passes_numeral hdigit hnext (passes_of_readNumeral ⟨_, hnumeral⟩)
    next => exact absurd h not_reads_error

theorem ReadsValues.optional {α : Type} {read : (s : Source) → Read α s} (hread : ReadsValues read) :
    ReadsValues (readOptional read) := by
  intro s a r h
  unfold readOptional at h
  split at h
  next r' h' hnext =>
    obtain ⟨⟨r₁, h₁⟩, hword, h⟩ := reads_bind.1 h
    obtain rfl : r₁ = r := h.rest_eq
    exact passes_word (by simp [literals]) hnext hword
  next =>
    obtain ⟨⟨a, r₁, h₁⟩, hsome, h⟩ := reads_bind.1 h
    obtain rfl : r₁ = r := h.rest_eq
    exact hread ⟨_, hsome⟩

/-! ## Lists -/

/-- The list ends here, before `r`. -/
def ListEnds (s r : Source) : Prop :=
  ∃ h, s.next? = some (.char ']', ⟨r, h⟩)

theorem listEnds_of_endList {s r : Source} {h : r.length < s.length} (hend : endList s = .ok ⟨r, h⟩) :
    ListEnds s r := by
  unfold endList at hend
  split at hend
  next => cases hend
  next g t hnext =>
    split at hend
    next hg =>
      cases hend
      exact ⟨h, hg ▸ hnext⟩
    next =>
      split at hend
      next => split at hend <;> cases hend
      next => cases hend

/-- Where the elements of a list stand: at its start, or after the comma behind the one before them. -/
inductive ElementsAt : Bool → Source → Source → Prop
  | first (s : Source) : ElementsAt true s s
  | later {s t : Source} {h : t.length < s.length} : s.next? = some (.char ',', ⟨t, h⟩) →
      ElementsAt false s t

theorem elementsAt_of_nextElement {first : Bool} {s q : Source} {h : q.length ≤ s.length}
    (hnext : nextElement first s = .ok (some ⟨q, h⟩)) : ∃ t g r hr, ElementsAt first s t ∧
      t.next? = some (g, ⟨r, hr⟩) ∧ g ≠ .char ']' ∧ q = g :: r := by
  unfold nextElement at hnext
  split at hnext
  next => cases hnext
  next g r hr hs =>
    split at hnext
    next => cases hnext
    next hbracket =>
      split at hnext
      next hfirst =>
        cases hnext
        subst hfirst
        exact ⟨s, g, r, hr, .first s, hs, hbracket, rfl⟩
      next hfirst =>
        obtain rfl : first = false := by simpa using hfirst
        split at hnext
        next hcomma =>
          subst hcomma
          split at hnext
          next => cases hnext
          next g₁ r₁ hr₁ hr' =>
            split at hnext
            next => cases hnext
            next hbracket =>
              cases hnext
              exact ⟨r, g₁, r₁, hr₁, .later hs, hr', hbracket, rfl⟩
        next => cases hnext

/-- What comes next after blanks comes next without them. -/
theorem next?_of_next? {s r q : Source} {g g' : Glyph} {h : r.length < s.length}
    {h' : q.length < (g :: r).length} (hnext : s.next? = some (g, ⟨r, h⟩))
    (hnext' : Source.next? (g :: r) = some (g', ⟨q, h'⟩)) : g' = g ∧ q = r := by
  have hskip : Source.skipBlank s = g :: r := by
    unfold Source.next? at hnext
    split at hnext
    next => cases hnext
    next heq =>
      cases hnext
      exact heq
  have hg : Source.isBlank g = false := by
    have hhead := List.head?_dropWhile_not Source.isBlank s
    rwa [show s.dropWhile Source.isBlank = g :: r from hskip] at hhead
  rw [Source.next?_of_skipBlank (Source.skipBlank_cons hg r)] at hnext'
  cases hnext'
  exact ⟨rfl, rfl⟩

theorem passes_of_readTexts {first : Bool} {s : Source} {ts : List String} {r : Source}
    (h : Reads (readTexts first s) ts r) : ListEnds s r ∨ ∃ t g t', ElementsAt first s t ∧
      t.next? = some (g, t') ∧ g ≠ .char ']' ∧ Passes (skipElements t) r := by
  fun_induction readTexts first s generalizing ts with
  | case1 first s ih =>
    obtain ⟨next, hnext, h⟩ := reads_bind.1 h
    split at h
    next =>
      obtain ⟨⟨r₁, h₁⟩, hend, h⟩ := reads_bind.1 h
      obtain rfl : r₁ = r := h.rest_eq
      exact .inl (listEnds_of_endList hend)
    next q hq =>
      obtain ⟨⟨text, r₁, h₁⟩, htext, h⟩ := reads_bind.1 h
      obtain ⟨⟨texts, r₂, h₂⟩, htexts, h⟩ := reads_bind.1 h
      obtain rfl : r₂ = r := h.rest_eq
      obtain ⟨t, g, q', hq', hat, ht, hbracket, rfl⟩ := elementsAt_of_nextElement hnext
      obtain ⟨q₁, hq₁, hquote, hpass⟩ := next?_of_readText ⟨_, htext⟩
      obtain ⟨rfl, rfl⟩ := next?_of_next? ht hquote
      have hvalue := passes_text ht hpass
      refine .inr ⟨t, _, _, hat, ht, hbracket, ?_⟩
      rcases ih _ hq _ h₁ ⟨_, htexts⟩ with ⟨_, hend⟩ | ⟨t₁, g, t', hat, -, -, hrest⟩
      · exact passes_lastElement hvalue hend
      · cases hat with
        | later hcomma => exact passes_element hvalue hcomma hrest

theorem readsValues_textList : ReadsValues readTextList := by
  intro s ts r h
  unfold readTextList at h
  split at h
  next => exact absurd h not_reads_error
  next g q hq hnext =>
    split at h
    next hg =>
      subst hg
      obtain ⟨⟨texts, r₁, h₁⟩, htexts, h⟩ := reads_bind.1 h
      obtain rfl : r₁ = r := h.rest_eq
      rcases passes_of_readTexts ⟨_, htexts⟩ with ⟨_, hend⟩ | ⟨t, g, t', hat, hfirst, hg, hpass⟩
      · exact passes_emptyList hnext hend
      · cases hat
        exact passes_list hnext hfirst hg hpass
    next => exact absurd h not_reads_error

end ObjectVolume.Json
