import ObjectVolume.Text.Composed
/-!
# Characters that stand alone

Composing a text drops none of its characters but those that have a part in a composite
(`StandsAlone.mem_composed`).
-/
namespace ObjectVolume.Text

/-- The character is no composite, and no composite is made of it. -/
structure StandsAlone (c : Char) : Prop where
  whole : decompose? c = none
  never_first : ∀ d, compose? c d = none
  never_second : ∀ d, compose? d c = none

/-- Whether an ASCII character stands alone is read off the list of composites. -/
theorem standsAlone_of_ascii {c : Char} (hc : c.toNat < 0x80)
    (h : ∀ f ∈ families, f.first ≠ c.toNat ∧ ∀ m ∈ f.members, m.1 ≠ c.toNat) : StandsAlone c := by
  have hsyllable (n : Nat) (hn : Hangul.isSyllable n) : 0xac00 ≤ n := by
    unfold Hangul.isSyllable at hn
    exact of_decide_eq_true (Bool.and_eq_true_iff.1 hn).1
  constructor
  · exact if_pos hc
  · intro d
    have hlisted : families.findSome? (fun f : Family =>
        if f.first = c.toNat then f.members.lookup d.toNat else none) = none :=
      List.findSome?_eq_none_iff.2 fun f hf => if_neg (h f hf).1
    have hsyllables : Hangul.compose? c.toNat d.toNat = none := by
      unfold Hangul.compose?
      rw [if_neg (by unfold Hangul.firstLead; omega), if_neg]
      rintro ⟨hs, -⟩
      have := hsyllable _ hs
      omega
    simp only [compose?, hlisted, hsyllables]
    rfl
  · intro d
    have hlisted : families.findSome? (fun f : Family =>
        if f.first = d.toNat then f.members.lookup c.toNat else none) = none := by
      refine List.findSome?_eq_none_iff.2 fun f hf => ?_
      split
      · exact List.lookup_eq_none_iff.2 fun m hm => bne_iff_ne.2 ((h f hf).2 m hm).symm
      · rfl
    have hsyllables : Hangul.compose? d.toNat c.toNat = none := by
      unfold Hangul.compose?
      rw [if_neg (by unfold Hangul.firstVowel; omega), if_neg (by unfold Hangul.noTail; omega)]
    simp only [compose?, hlisted, hsyllables]
    rfl

/-! ## Marks -/

theorem placeMark_perm (c : Char) (cs : List Char) : (placeMark c cs).Perm (c :: cs) := by
  induction cs with
  | nil => exact .refl _
  | cons d cs ih =>
    unfold placeMark
    split
    · exact (ih.cons d).trans (.swap c d cs)
    · exact .refl _

/-- Marks change places, but none is lost. -/
theorem orderMarks_perm (cs : List Char) : (orderMarks cs).Perm cs := by
  induction cs with
  | nil => exact .refl _
  | cons c cs ih => exact (placeMark_perm c _).trans (ih.cons c)

/-! ## Composing -/

variable {c : Char}

theorem StandsAlone.mem_joinFrom (h : StandsAlone c) {base : Char} {marks cs : List Char}
    (hmem : c ∈ base :: marks ++ cs) : c ∈ joinFrom base marks cs := by
  induction cs generalizing base marks with
  | nil => simpa [joinFrom] using hmem
  | cons d cs ih =>
    unfold joinFrom
    split
    next joined hjoined =>
      -- What is joined is neither of the two characters.
      have hjoined : compose? base d = some joined := by
        split at hjoined
        · cases hjoined
        · exact hjoined
      have hbase : c ≠ base := by
        rintro rfl
        simp [h.never_first] at hjoined
      have hd : c ≠ d := by
        rintro rfl
        simp [h.never_second] at hjoined
      refine ih ?_
      simp only [List.cons_append, List.mem_cons, List.mem_append] at hmem ⊢
      grind
    next =>
      split
      · have hrest : c ∈ d :: [] ++ cs → c ∈ joinFrom d [] cs := ih
        simp only [List.cons_append, List.nil_append, List.mem_cons, List.mem_append] at hmem hrest ⊢
        grind
      · refine ih ?_
        simp only [List.cons_append, List.mem_cons, List.mem_append, List.not_mem_nil] at hmem ⊢
        grind

/-- A character that stands alone is kept. -/
theorem StandsAlone.mem_composed (h : StandsAlone c) {cs : List Char} (hmem : c ∈ cs) :
    c ∈ composed cs := by
  have hparts : parts maxParts c = [c] := by simp only [maxParts, parts, h.whole]
  have hordered : c ∈ orderMarks (cs.flatMap (parts maxParts)) := by
    refine (orderMarks_perm _).mem_iff.2 (List.mem_flatMap.2 ⟨c, hmem, ?_⟩)
    rw [hparts]
    exact List.mem_singleton_self c
  unfold composed
  split
  next hnil => simp [hnil] at hordered
  next d r hcons =>
    refine h.mem_joinFrom ?_
    rwa [hcons] at hordered

end ObjectVolume.Text
