import ObjectVolume.Text.Ranges
/-!
# Texts and their bytes

Bytes are those of at most one text, and an ASCII character is in it if its code is among them.
-/
namespace ObjectVolume.Text

theorem fromUTF8?_toUTF8 (t : String) : String.fromUTF8? t.toUTF8 = some t :=
  dif_pos t.isValidUTF8

theorem toUTF8_of_fromUTF8? {b : ByteArray} {t : String} (h : String.fromUTF8? b = some t) :
    t.toUTF8 = b := by
  unfold String.fromUTF8? at h
  split at h
  · cases h
    rfl
  · cases h

/-! ## Characters -/

theorem utf8EncodeChar_of_lt {c : Char} (hc : c.toNat < 0x80) :
    String.utf8EncodeChar c = [.ofNat c.toNat] := by
  have hval : c.val.toNat ≤ 127 := by
    change c.toNat ≤ 127
    omega
  exact if_pos hval

/-- All bytes of a character beyond ASCII are beyond ASCII. -/
theorem le_of_mem_utf8EncodeChar {b : UInt8} {c : Char} (hc : 0x80 ≤ c.toNat)
    (hb : b ∈ String.utf8EncodeChar c) : 0x80 ≤ b.toNat := by
  have hval : ¬c.val.toNat ≤ 127 := by
    change ¬c.toNat ≤ 127
    omega
  unfold String.utf8EncodeChar at hb
  rw [if_neg hval] at hb
  split at hb
  case isTrue =>
    simp only [List.mem_cons, List.not_mem_nil, or_false] at hb
    obtain rfl | rfl := hb <;> simp only [UInt8.toNat_ofNat'] <;> omega
  split at hb
  case isTrue =>
    simp only [List.mem_cons, List.not_mem_nil, or_false] at hb
    obtain rfl | rfl | rfl := hb <;> simp only [UInt8.toNat_ofNat'] <;> omega
  case isFalse =>
    simp only [List.mem_cons, List.not_mem_nil, or_false] at hb
    obtain rfl | rfl | rfl | rfl := hb <;> simp only [UInt8.toNat_ofNat'] <;> omega

/-- Below 0x80, a byte is the code of an ASCII character wherever it stands. -/
theorem eq_of_mem_utf8EncodeChar {c d : Char} (hc : c.toNat < 0x80)
    (h : UInt8.ofNat c.toNat ∈ String.utf8EncodeChar d) : d = c := by
  have hcode (a : Char) (ha : a.toNat < 0x80) : (UInt8.ofNat a.toNat).toNat = a.toNat :=
    UInt8.toNat_ofNat_of_lt (show a.toNat < 256 by omega)
  have hd : d.toNat < 0x80 := by
    refine Nat.lt_of_not_le fun hd => ?_
    have hle := le_of_mem_utf8EncodeChar hd h
    rw [hcode c hc] at hle
    omega
  rw [utf8EncodeChar_of_lt hd, List.mem_singleton, ← UInt8.toNat_inj, hcode c hc, hcode d hd] at h
  exact Char.toNat_inj.1 h.symm

/-! ## Texts -/

/-- The bytes hold the code of an ASCII character only if the text holds the character. -/
theorem mem_of_fromUTF8? {bytes : List UInt8} {t : String} {c : Char} (hc : c.toNat < 0x80)
    (h : String.fromUTF8? ⟨bytes.toArray⟩ = some t) (hmem : UInt8.ofNat c.toNat ∈ bytes) :
    c ∈ t.toList := by
  have hbytes : t.toList.flatMap String.utf8EncodeChar = bytes := by
    have htext : t.toList.utf8Encode = t.toUTF8 := String.utf8Encode_toList
    refine List.toByteArray_inj.1 (htext.trans ((toUTF8_of_fromUTF8? h).trans ?_))
    exact ByteArray.ext List.data_toByteArray.symm
  rw [← hbytes] at hmem
  obtain ⟨d, hd, hcode⟩ := List.mem_flatMap.1 hmem
  rwa [← eq_of_mem_utf8EncodeChar hc hcode]

end ObjectVolume.Text
