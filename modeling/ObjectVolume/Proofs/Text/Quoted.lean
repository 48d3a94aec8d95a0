import ObjectVolume.Text.Quoted
/-!
# Quoted text tells everything

No two texts are quoted alike (`quote_inj`): whatever stands for a character between quotes starts like no
other and says where it ends. Plain texts stand between quotes as they are (`quote_of_isPlain`).
-/
namespace ObjectVolume.Text

/-! ## Hexadecimal digits -/

theorem hexValue_digitChar : ∀ d < 16, hexValue (Nat.digitChar d) = some d := by
  decide

/-- The digits of a number write that number. -/
theorem hexNumber_hexDigits (n : Nat) : hexNumber (hexDigits n) = n := by
  unfold hexDigits
  induction n using Nat.strongRecOn with
  | ind n ih =>
    rw [Nat.toDigits_eq_if (by decide)]
    split
    next h => simp [hexNumber, hexValue_digitChar n h]
    next h =>
      have hquotient := ih (n / 16) (by omega)
      have hdigit := hexValue_digitChar (n % 16) (by omega)
      unfold hexNumber at hquotient ⊢
      rw [List.foldl_append, hquotient]
      simp only [List.foldl_cons, List.foldl_nil, hdigit, Option.getD_some]
      omega

theorem isSome_hexValue_of_mem {n : Nat} {c : Char} (hc : c ∈ hexDigits n) : (hexValue c).isSome := by
  unfold hexDigits at hc
  induction n using Nat.strongRecOn with
  | ind n ih =>
    rw [Nat.toDigits_eq_if (by decide)] at hc
    split at hc
    next h =>
      rw [List.mem_singleton.1 hc, hexValue_digitChar n h]
      rfl
    next h =>
      rcases List.mem_append.1 hc with hc | hc
      · exact ih (n / 16) (by omega) hc
      · rw [List.mem_singleton.1 hc, hexValue_digitChar (n % 16) (by omega)]
        rfl

/-- Digits end where something else follows. -/
theorem hexDigits_append_inj {m n : Nat} {xs ys : List Char}
    (h : hexDigits m ++ '\x7d' :: xs = hexDigits n ++ '\x7d' :: ys) : m = n ∧ xs = ys := by
  have hspan (n : Nat) (xs : List Char) :
      (hexDigits n ++ '\x7d' :: xs).takeWhile (hexValue · |>.isSome) = hexDigits n := by
    rw [List.takeWhile_append_of_pos fun _ => isSome_hexValue_of_mem]
    simp [show hexValue '\x7d' = none by decide]
  have hdigits : hexDigits m = hexDigits n := by rw [← hspan m xs, h, hspan n ys]
  rw [hdigits, List.append_cancel_left_eq] at h
  refine ⟨?_, (List.cons.inj h).2⟩
  rw [← hexNumber_hexDigits m, hdigits, hexNumber_hexDigits n]

/-! ## Characters -/

/-- The character that a letter after a backslash stands for. -/
def escapedBy : Char → Char
  | '0' => '\x00'
  | 't' => '\t'
  | 'n' => '\n'
  | 'r' => '\r'
  | d => d

/-- The three ways to quote a character. -/
theorem quoteChar_cases (c : Char) :
    (∃ d, quoteChar c = ['\\', d] ∧ d ≠ 'u' ∧ escapedBy d = c) ∨
      (quoteChar c = '\\' :: 'u' :: '\x7b' :: (hexDigits c.toNat ++ ['\x7d'])) ∨
      (quoteChar c = [c] ∧ c ≠ '\\') := by
  unfold quoteChar
  split
  next hc => rcases hc with rfl | rfl <;> exact .inl ⟨_, rfl, by decide, by decide⟩
  next hplain =>
  split
  next hc => exact .inl ⟨'0', rfl, by decide, hc.symm⟩
  split
  next hc => exact .inl ⟨'t', rfl, by decide, hc.symm⟩
  split
  next hc => exact .inl ⟨'n', rfl, by decide, hc.symm⟩
  split
  next hc => exact .inl ⟨'r', rfl, by decide, hc.symm⟩
  split
  next => exact .inr (.inl (by simp))
  next => exact .inr (.inr ⟨rfl, fun hc => hplain (.inr hc)⟩)

/-- A quoted character ends where the next one starts. -/
theorem quoteChar_append_inj {c d : Char} {xs ys : List Char}
    (h : quoteChar c ++ xs = quoteChar d ++ ys) : c = d ∧ xs = ys := by
  rcases quoteChar_cases c with ⟨e, hc, he, rfl⟩ | hc | ⟨hc, hplain⟩
  · rcases quoteChar_cases d with ⟨f, hd, -, rfl⟩ | hd | ⟨hd, hplain⟩ <;> rw [hc, hd] at h
    · obtain ⟨rfl, rfl⟩ : e = f ∧ xs = ys := by simpa using h
      exact ⟨rfl, rfl⟩
    · exact absurd (List.cons.inj (List.cons.inj h).2).1 he
    · exact absurd (List.cons.inj h).1.symm hplain
  · rcases quoteChar_cases d with ⟨f, hd, hf, -⟩ | hd | ⟨hd, hplain⟩ <;> rw [hc, hd] at h
    · exact absurd (List.cons.inj (List.cons.inj h).2).1.symm hf
    · have hdigits : hexDigits c.toNat ++ '\x7d' :: xs = hexDigits d.toNat ++ '\x7d' :: ys := by
        simpa using h
      obtain ⟨hnat, rfl⟩ := hexDigits_append_inj hdigits
      exact ⟨Char.toNat_inj.1 hnat, rfl⟩
    · exact absurd (List.cons.inj h).1.symm hplain
  · rcases quoteChar_cases d with ⟨f, hd, -, -⟩ | hd | ⟨hd, -⟩ <;> rw [hc, hd] at h
    · exact absurd (List.cons.inj h).1 hplain
    · exact absurd (List.cons.inj h).1 hplain
    · exact ⟨(List.cons.inj h).1, (List.cons.inj h).2⟩

/-! ## Texts -/

theorem quoteChar_ne_nil (c : Char) : quoteChar c ≠ [] := by
  rcases quoteChar_cases c with ⟨d, h, -, -⟩ | h | ⟨h, -⟩ <;> simp [h]

theorem flatMap_quoteChar_inj {cs ds : List Char} (h : cs.flatMap quoteChar = ds.flatMap quoteChar) :
    cs = ds := by
  induction cs generalizing ds with
  | nil =>
    cases ds with
    | nil => rfl
    | cons d ds => simp [quoteChar_ne_nil] at h
  | cons c cs ih =>
    cases ds with
    | nil => simp [quoteChar_ne_nil] at h
    | cons d ds =>
      rw [List.flatMap_cons, List.flatMap_cons] at h
      obtain ⟨rfl, hrest⟩ := quoteChar_append_inj h
      rw [ih hrest]

/-- **Quoted texts** are the same only if the texts are. -/
theorem quote_inj {s t : String} : quote s = quote t ↔ s = t := by
  refine ⟨fun h => ?_, congrArg quote⟩
  have hquoted := String.ofList_inj.1 h
  simp only [List.cons_append, List.cons.injEq, true_and, List.append_cancel_right_eq] at hquoted
  exact String.toList_inj.1 (flatMap_quoteChar_inj hquoted)

/-! ## Plain texts -/

/-- Characters that print in ASCII, and the Latin letters after it. -/
def isPlain (c : Char) : Bool :=
  (0x20 ≤ c.toNat && c.toNat < 0x7f || 0xae ≤ c.toNat && c.toNat < 0x300) && c != '"' && c != '\\'

theorem isPlain_iff {c : Char} : isPlain c ↔
    (0x20 ≤ c.toNat ∧ c.toNat < 0x7f ∨ 0xae ≤ c.toNat ∧ c.toNat < 0x300) ∧ c ≠ '"' ∧ c ≠ '\\' := by
  simp [isPlain, and_assoc]

theorem not_hidden_of_isPlain {c : Char} (h : isPlain c) : ¬hidden.contains c := by
  have houtside : ∀ r ∈ hidden.ranges,
      r.2 < 0x20 ∨ 0x7f ≤ r.1 ∧ r.2 < 0xae ∨ 0x300 ≤ r.1 := by
    -- Lists of characters are read faster than texts.
    unfold hidden Ranges.ofLines
    simp only [List.flatMap_cons, List.flatMap_nil]
    repeat rw [String.toList_ofList]
    decide +kernel
  intro hcontains
  obtain ⟨r, hr, hc⟩ := List.any_eq_true.1 hcontains
  simp only [Bool.and_eq_true, decide_eq_true_eq] at hc
  obtain ⟨hplain, -⟩ := isPlain_iff.1 h
  have := houtside r hr
  omega

theorem quoteChar_of_isPlain {c : Char} (h : isPlain c) : quoteChar c = [c] := by
  obtain ⟨hplain, hmark⟩ := isPlain_iff.1 h
  have hcode (d : Char) (hd : d.toNat < 0x20) : c ≠ d := by
    rintro rfl
    omega
  unfold quoteChar
  rw [if_neg (by simp [hmark]), if_neg (hcode _ (by decide)), if_neg (hcode _ (by decide)),
    if_neg (hcode _ (by decide)), if_neg (hcode _ (by decide)), if_neg (not_hidden_of_isPlain h)]

/-- Plain texts are quoted as they are. -/
theorem quote_of_isPlain {s : String} (h : s.toList.all isPlain) : quote s = "\"" ++ s ++ "\"" := by
  have hchars (cs : List Char) (hcs : ∀ c ∈ cs, isPlain c) : cs.flatMap quoteChar = cs := by
    induction cs with
    | nil => rfl
    | cons c cs ih =>
      rw [List.flatMap_cons, quoteChar_of_isPlain (hcs c List.mem_cons_self),
        ih fun d hd => hcs d (List.mem_cons_of_mem _ hd)]
      rfl
  rw [quote, hchars _ (List.all_eq_true.1 h)]
  simp [String.ofList_append, String.append_assoc]

end ObjectVolume.Text
