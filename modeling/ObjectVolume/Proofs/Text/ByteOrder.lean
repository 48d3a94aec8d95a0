import ObjectVolume.Proofs.Text.Utf8
/-!
# The order of texts is that of their bytes

Texts are compared by the codes of their characters, and stores compare keys byte by byte. Both orders
are the same (`lt_iff_bytes_lt`): where two characters differ, so do their bytes, in the same direction
and before either character ends (`utf8EncodeChar_append_lt`).
-/
namespace ObjectVolume.Text

/-- The bytes of a text. -/
def bytes (t : String) : List UInt8 :=
  t.toUTF8.data.toList

theorem bytes_eq (t : String) : bytes t = t.toList.flatMap String.utf8EncodeChar := by
  have htext : t.toUTF8 = t.toList.utf8Encode := String.utf8Encode_toList.symm
  rw [bytes, htext, List.utf8Encode, List.data_toByteArray]

/-! ## Characters -/

/-- Bytes are compared by the first of them, and by all others if that is the same. -/
theorem ofNat_cons_lt {a b : Nat} {x y : List UInt8} (first : a % 256 ≤ b % 256)
    (others : a % 256 = b % 256 → x < y) : UInt8.ofNat a :: x < UInt8.ofNat b :: y := by
  rw [List.cons_lt_cons_iff, UInt8.lt_iff_toNat_lt, ← UInt8.toNat_inj, UInt8.toNat_ofNat',
    UInt8.toNat_ofNat']
  rcases Nat.lt_or_eq_of_le first with hlt | heq
  · exact .inl hlt
  · exact .inr ⟨heq, others heq⟩

/-- A lower first byte settles it. -/
theorem ofNat_cons_lt_of_lt {a b : Nat} (x y : List UInt8) (first : a % 256 < b % 256) :
    UInt8.ofNat a :: x < UInt8.ofNat b :: y :=
  ofNat_cons_lt (Nat.le_of_lt first) fun h => absurd h (Nat.ne_of_lt first)

/-- A character with a lower code has lower bytes, whatever follows it. -/
theorem utf8EncodeChar_append_lt {c d : Char} (h : c < d) (x y : List UInt8) :
    String.utf8EncodeChar c ++ x < String.utf8EncodeChar d ++ y := by
  have hcode : c.val.toNat < d.val.toNat := h
  have hmax : d.val.toNat < 0x110000 := by
    have hvalid : d.val.toNat.isValidChar := d.valid
    unfold Nat.isValidChar at hvalid
    omega
  unfold String.utf8EncodeChar
  generalize c.val.toNat = v at hcode
  generalize d.val.toNat = w at hcode hmax
  dsimp only
  -- fewer bytes have a lower first one; of as many, the first to differ is lower
  split
  · split
    · exact ofNat_cons_lt_of_lt _ _ (by omega)
    split
    · exact ofNat_cons_lt_of_lt _ _ (by omega)
    split <;> exact ofNat_cons_lt_of_lt _ _ (by omega)
  split
  · rw [if_neg (by omega)]
    split
    · refine ofNat_cons_lt (by omega) fun _ => ?_
      exact ofNat_cons_lt_of_lt _ _ (by omega)
    split <;> exact ofNat_cons_lt_of_lt _ _ (by omega)
  split
  · rw [if_neg (by omega), if_neg (by omega)]
    split
    · refine ofNat_cons_lt (by omega) fun _ => ofNat_cons_lt (by omega) fun _ => ?_
      exact ofNat_cons_lt_of_lt _ _ (by omega)
    · exact ofNat_cons_lt_of_lt _ _ (by omega)
  · rw [if_neg (by omega), if_neg (by omega), if_neg (by omega)]
    refine ofNat_cons_lt (by omega) fun _ => ofNat_cons_lt (by omega) fun _ => ?_
    refine ofNat_cons_lt (by omega) fun _ => ?_
    exact ofNat_cons_lt_of_lt _ _ (by omega)

/-! ## Texts -/

theorem flatMap_utf8EncodeChar_lt : ∀ {a b : List Char}, a < b →
    a.flatMap String.utf8EncodeChar < b.flatMap String.utf8EncodeChar
  | _, [], h => absurd h (List.not_lt_nil _)
  | [], d :: b, _ => by
    rw [List.flatMap_cons]
    obtain ⟨byte, others, hd⟩ := List.exists_cons_of_ne_nil (String.utf8EncodeChar_ne_nil (c := d))
    rw [hd]
    exact List.nil_lt_cons _ _
  | c :: a, d :: b, h => by
    rw [List.flatMap_cons, List.flatMap_cons]
    rcases List.cons_lt_cons_iff.1 h with hlt | ⟨rfl, hlt⟩
    · exact utf8EncodeChar_append_lt hlt _ _
    · exact List.append_left_lt (flatMap_utf8EncodeChar_lt hlt)

/-- **Order.** A text comes before another exactly if its bytes do. -/
theorem lt_iff_bytes_lt {a b : String} : a < b ↔ bytes a < bytes b := by
  have hmono {a b : String} (h : a < b) : bytes a < bytes b := by
    rw [bytes_eq, bytes_eq]
    exact flatMap_utf8EncodeChar_lt (String.lt_iff.1 h)
  refine ⟨hmono, fun h => Decidable.byContradiction fun hab => ?_⟩
  have hba : ¬ b < a := fun hba => List.lt_asymm h (hmono hba)
  obtain rfl : a = b := String.le_antisymm (String.not_lt.1 hba) (String.not_lt.1 hab)
  exact List.lt_irrefl _ h

end ObjectVolume.Text
