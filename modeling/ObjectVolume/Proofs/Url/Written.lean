import ObjectVolume.Proofs.Text.Quoted
import ObjectVolume.Proofs.Url.Host
/-!
# Hosts as they are written

Nothing in a written host could be taken for a delimiter of a URL (`Host.written_of_parse`,
`Host.written_of_parseOther`): a name or an IPv4 address holds none at all, and the colons of an IPv6
address are in brackets.
-/
namespace ObjectVolume.Url

/-! ## Texts that are joined -/

theorem mem_intercalate {α : Type} {sep : List α} {parts : List (List α)} {c : α}
    (h : c ∈ sep.intercalate parts) : (∃ part ∈ parts, c ∈ part) ∨ c ∈ sep := by
  induction parts with
  | nil => simp at h
  | cons part rest ih =>
    cases rest with
    | nil =>
      rw [List.intercalate_singleton] at h
      exact .inl ⟨part, List.mem_cons_self, h⟩
    | cons next rest =>
      rw [List.intercalate_cons_cons, List.mem_append, List.mem_append] at h
      rcases h with (h | h) | h
      · exact .inl ⟨part, List.mem_cons_self, h⟩
      · exact .inr h
      · rcases ih h with ⟨part', hpart, hc⟩ | hc
        · exact .inl ⟨part', List.mem_cons_of_mem _ hpart, hc⟩
        · exact .inr hc

theorem mem_intercalate_of_mem {α : Type} (sep : List α) {parts : List (List α)} {part : List α}
    {c : α} (hpart : part ∈ parts) (hc : c ∈ part) : c ∈ sep.intercalate parts := by
  induction parts with
  | nil => cases hpart
  | cons first rest ih =>
    cases rest with
    | nil =>
      rw [List.intercalate_singleton]
      exact List.mem_singleton.1 hpart ▸ hc
    | cons next rest =>
      rw [List.intercalate_cons_cons, List.mem_append, List.mem_append]
      rcases List.mem_cons.1 hpart with rfl | hpart
      · exact .inl (.inl hc)
      · exact .inr (ih hpart)

/-! ## Punycode -/

/-- None of the characters is forbidden in domain names. -/
def Idna.Allowed (cs : List Char) : Prop := ∀ c ∈ cs, isForbidden c = false

open Idna (Allowed)

variable {cs : List Char}

theorem Idna.Allowed.of_all (h : cs.all (!isForbidden ·) = true) : Allowed cs := by
  intro c hc
  simpa using List.all_eq_true.1 h c hc

theorem Idna.Allowed.append {ds : List Char} (hc : Allowed cs) (hd : Allowed ds) :
    Allowed (cs ++ ds) := by
  intro c hmem
  rcases List.mem_append.1 hmem with hmem | hmem
  · exact hc c hmem
  · exact hd c hmem

theorem Idna.Allowed.of_subset {ds : List Char} (hc : Allowed cs) (hsub : ds ⊆ cs) : Allowed ds :=
  fun c hmem => hc c (hsub hmem)

namespace Punycode

theorem threshold_le (bias i : Nat) : threshold bias i ≤ 26 := by
  simp only [threshold]
  split <;> omega

theorem isForbidden_digitChar : ∀ d < digitCount, Idna.isForbidden (digitChar d) = false := by
  decide

theorem allowed_writeNumber (bias i n : Nat) : Allowed (writeNumber bias i n) := by
  have hcount : digitCount = 36 := rfl
  induction i, n using writeNumber.induct bias with
  | case1 i n t hlt =>
    have hsmall := threshold_le bias i
    rw [writeNumber, if_pos hlt]
    intro c hc
    rw [List.mem_singleton.1 hc]
    exact isForbidden_digitChar n (by omega)
  | case2 i n t hge ih =>
    have hsmall := threshold_le bias i
    have hmod := Nat.mod_lt (n - threshold bias i)
      (show 0 < digitCount - threshold bias i by omega)
    rw [writeNumber, if_neg hge]
    intro c hc
    rcases List.mem_cons.1 hc with rfl | hc
    · exact isForbidden_digitChar _ (by omega)
    · exact ih c hc

theorem allowed_pass {w : Writer} (h : Allowed w.text) (n : Nat) (c : Char) :
    Allowed (w.pass n c).text := by
  unfold Writer.pass
  split
  · exact h
  split
  · exact h.append (allowed_writeNumber _ _ _)
  · exact h

theorem allowed_foldl_pass {w : Writer} (h : Allowed w.text) (n : Nat) (cs : List Char) :
    Allowed (cs.foldl (Writer.pass n) w).text := by
  induction cs generalizing w with
  | nil => exact h
  | cons c cs ih => exact ih (allowed_pass h n c)

theorem allowed_writeFrom (cs : List Char) {w : Writer} (h : Allowed w.text) (next : Nat)
    (ns : List Nat) : Allowed (writeFrom cs w next ns).text := by
  induction ns generalizing w next with
  | nil => exact h
  | cons n ns ih =>
    refine ih ?_ _
    exact allowed_foldl_pass (w := { w with delta := w.delta + (n - next) * (w.count + 1) }) h n cs

/-- What Punycode adds to the characters of a text are hyphens, letters and digits. -/
theorem allowed_encode (h : Allowed cs) : Allowed (encode cs) := by
  refine allowed_writeFrom cs ?_ _ _
  have hbasic : Allowed (cs.filter isAscii) := h.of_subset fun _ hc => (List.mem_filter.1 hc).1
  dsimp only
  split
  · intro c hc
    cases hc
  · refine hbasic.append fun c hc => ?_
    rw [List.mem_singleton.1 hc]
    decide

end Punycode

/-! ## Domain names -/

namespace Idna

theorem allowed_written {l : Label} (h : Allowed cs) (hl : Label.ofText? cs = some l) :
    Allowed l.written := by
  have htag : Allowed Label.tag := .of_all (by decide)
  unfold Label.ofText? at hl
  split at hl
  · unfold Label.ofPunycode? at hl
    split at hl
    · cases hl
    · obtain ⟨shown, -, hl⟩ := Option.bind_eq_some_iff.1 hl
      split at hl
      · cases hl
        exact htag.append (h.of_subset (List.drop_subset _ _))
      · cases hl
  split at hl
  · cases hl
    exact h
  split at hl
  · cases hl
    exact htag.append (Punycode.allowed_encode h)
  · cases hl

theorem allowed_of_mapM {parts : List (List Char)} {labels : List Label}
    (h : ∀ part ∈ parts, Allowed part) (hl : parts.mapM Label.ofText? = some labels) :
    ∀ l ∈ labels, Allowed l.written := by
  induction parts generalizing labels with
  | nil =>
    cases hl
    intro l hmem
    cases hmem
  | cons part parts ih =>
    rw [List.mapM_cons, Option.bind_eq_bind, Option.bind_eq_some_iff] at hl
    obtain ⟨first, hfirst, hl⟩ := hl
    rw [Option.bind_eq_bind, Option.bind_eq_some_iff] at hl
    obtain ⟨rest, hrest, ⟨⟩⟩ := hl
    intro l hmem
    rcases List.mem_cons.1 hmem with rfl | hmem
    · exact allowed_written (h part List.mem_cons_self) hfirst
    · exact ih (fun part hpart => h part (List.mem_cons_of_mem _ hpart)) hrest l hmem

/-- Nothing that is forbidden is in the ASCII form of a domain name. -/
theorem allowed_toAscii {name : List Char} (h : toAscii name = some cs) : Allowed cs := by
  unfold toAscii labels? at h
  simp only [Option.bind_eq_bind, Option.bind_eq_some_iff, Option.ite_none_left_eq_some] at h
  obtain ⟨labels, ⟨normal, hnormal, labels', hlabels, -, ⟨⟩⟩, ⟨⟩⟩ := h
  have hparts : ∀ part ∈ normal.splitOn '.', Allowed part := by
    intro part hpart c hc
    refine not_isForbidden_of_normalized? hnormal c ?_
    rw [← @List.intercalate_splitOn _ normal _ _ '.']
    exact mem_intercalate_of_mem _ hpart hc
  intro c hc
  rcases mem_intercalate hc with ⟨part, hpart, hc⟩ | hc
  · obtain ⟨l, hl, rfl⟩ := List.mem_map.1 hpart
    exact allowed_of_mapM hparts hlabels l hl c hc
  · rw [List.mem_singleton.1 hc]
    decide

end Idna

/-! ## Hosts -/

/-- What separates the parts of a URL from each other, but for colons. -/
def delimiters : List Char := ['/', '?', '#', '@', '[', ']']

namespace Host

/-- The text of a host holds no delimiter, and colons only if it is in brackets. -/
inductive Written : List Char → Prop
  | plain {cs : List Char} (none : ∀ c ∈ cs, c ∉ ':' :: delimiters) : Written cs
  | bracketed {cs : List Char} (none : ∀ c ∈ cs, c ∉ delimiters) : Written ('[' :: cs ++ [']'])

theorem not_mem_of_hexValue {c : Char} (h : (Text.hexValue c).isSome) : c ∉ ':' :: delimiters := by
  have hnone : (':' :: delimiters).all fun c => (Text.hexValue c).isNone := by decide
  intro hc
  rw [Option.isNone_iff_eq_none.1 (List.all_eq_true.1 hnone c hc)] at h
  cases h

theorem not_mem_of_allowed (h : Idna.Allowed cs) : ∀ c ∈ cs, c ∉ ':' :: delimiters := by
  have hforbidden : (':' :: delimiters).all Idna.isForbidden := by decide
  intro c hc hmem
  have hallowed := h c hc
  rw [List.all_eq_true.1 hforbidden c hmem] at hallowed
  cases hallowed

theorem hexValue_of_isDigit {c : Char} (h : c.isDigit = true) : (Text.hexValue c).isSome := by
  have hrange : '0' ≤ c ∧ c ≤ '9' := by
    simpa [Char.isDigit, Char.le_def] using h
  rw [Text.hexValue, if_pos hrange]
  rfl

theorem written_ipv4 (address : Nat) : Written (Host.ipv4 address).text.toList := by
  refine .plain fun c hc => ?_
  rw [Host.text, Ipv4.text, String.toList_intercalate] at hc
  rcases mem_intercalate hc with ⟨part, hpart, hc⟩ | hc
  · rw [List.map_map, List.mem_map] at hpart
    obtain ⟨i, -, rfl⟩ := hpart
    have hdigit : c ∈ Nat.toDigits 10 (address / Nat.pow 256 i % 256) := by simpa using hc
    exact not_mem_of_hexValue (hexValue_of_isDigit
      (Nat.isDigit_of_mem_toDigits (by decide) (by decide) hdigit))
  · rw [show c = '.' by simpa using hc]
    decide

theorem not_mem_groupsText (gs : List Nat) : ∀ c ∈ (Ipv6.groupsText gs).toList, c ∉ delimiters := by
  intro c hc
  rw [Ipv6.groupsText, String.toList_intercalate] at hc
  rcases mem_intercalate hc with ⟨part, hpart, hc⟩ | hc
  · rw [List.map_map, List.mem_map] at hpart
    obtain ⟨g, -, rfl⟩ := hpart
    have hdigit : c ∈ Text.hexDigits g := by simpa using hc
    exact fun hmem => not_mem_of_hexValue (Text.isSome_hexValue_of_mem hdigit)
      (List.mem_cons_of_mem _ hmem)
  · rw [show c = ':' by simpa using hc]
    decide

theorem written_ipv6 (gs : List Nat) : Written (Host.ipv6 gs).text.toList := by
  have hnone : ∀ c ∈ (Ipv6.text gs).toList, c ∉ delimiters := by
    unfold Ipv6.text
    dsimp only
    split
    · exact not_mem_groupsText gs
    · intro c hc
      rw [String.toList_append, String.toList_append, List.mem_append, List.mem_append] at hc
      rcases hc with (hc | hc) | hc
      · exact not_mem_groupsText _ c hc
      · rw [show c = ':' by simpa using hc]
        decide
      · exact not_mem_groupsText _ c hc
  have htext : (Host.ipv6 gs).text.toList = '[' :: (Ipv6.text gs).toList ++ [']'] := by
    simp [Host.text]
  rw [htext]
  exact .bracketed hnone

theorem written_of_bracketed? {host : Host} (h : bracketed? cs = some (.ok host)) :
    Written host.text.toList := by
  unfold bracketed? at h
  split at h
  · split at h
    · split at h
      · cases h
        exact written_ipv6 _
      · cases h
    · cases h
  · cases h

theorem not_mem_encodeByte (b : UInt8) : ∀ c ∈ encodeByte b, c ∉ ':' :: delimiters := by
  have hdigit : ∀ n < 16, hexDigit n ∉ ':' :: delimiters := by decide
  have hb := b.toNat_lt
  intro c hc
  simp only [encodeByte, List.mem_cons, List.not_mem_nil, or_false] at hc
  obtain rfl | rfl | rfl := hc
  · decide
  · exact hdigit _ (by omega)
  · exact hdigit _ (by omega)

/-- Percent encoding brings in no delimiters. -/
theorem not_mem_encode {escaped : Char → Bool} (h : ∀ c ∈ cs, c ∉ ':' :: delimiters) :
    ∀ c ∈ encode escaped cs, c ∉ ':' :: delimiters := by
  intro c hc
  obtain ⟨d, hd, hc⟩ := List.mem_flatMap.1 hc
  unfold encodeChar at hc
  split at hc
  · obtain ⟨b, -, hc⟩ := List.mem_flatMap.1 hc
    exact not_mem_encodeByte b c hc
  · rw [List.mem_singleton.1 hc]
    exact h d hd

theorem isForbidden_of_mem : ∀ c ∈ ':' :: delimiters, isForbidden c = true :=
  List.all_eq_true.1 (by decide)

/-- **Hosts of well-known schemes** are written without delimiters. -/
theorem written_of_parse {host : Host} (h : parse cs = .ok host) : Written host.text.toList := by
  unfold parse at h
  split at h
  next answer hbracketed =>
    rw [h] at hbracketed
    exact written_of_bracketed? hbracketed
  next =>
  split at h
  · cases h
  · cases h
  next domain hdomain =>
    obtain ⟨t, -, htoAscii⟩ := Option.bind_eq_some_iff.1 hdomain
    split at h
    · split at h
      · cases h
        exact written_ipv4 _
      · cases h
    · cases h
      refine .plain ?_
      rw [Host.text, String.toList_ofList]
      exact not_mem_of_allowed (Idna.allowed_toAscii htoAscii)

/-- **Hosts of other schemes** are, too. -/
theorem written_of_parseOther {host : Host} (h : parseOther cs = .ok host) :
    Written host.text.toList := by
  unfold parseOther at h
  split at h
  next answer hbracketed =>
    rw [h] at hbracketed
    exact written_of_bracketed? hbracketed
  next =>
  split at h
  · cases h
    exact .plain (by simp [Host.text])
  split at h
  · cases h
  next hforbidden =>
    cases h
    refine .plain fun c hc => ?_
    rw [Host.text, String.toList_ofList] at hc
    refine not_mem_encode (fun c hc hmem => hforbidden ?_) c hc
    exact List.any_eq_true.2 ⟨c, hc, isForbidden_of_mem c hmem⟩

end Host

end ObjectVolume.Url
