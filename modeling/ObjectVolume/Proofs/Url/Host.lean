import ObjectVolume.Url.Host
import ObjectVolume.Proofs.Text.Composed
import ObjectVolume.Proofs.Text.Utf8
/-!
# Hosts with an at sign or a colon

No domain name has an at sign or a colon in it (`Host.parse_of_mem`): whatever is decoded, mapped and
composed before a name is looked at, the sign is still there.
-/
namespace ObjectVolume.Url

/-- Whatever is decoded, a character that has no part in a code is still there. -/
theorem mem_decode {c : Char} (hc : c.toNat < 0x80) (hpercent : c ≠ '%')
    (hdigit : Text.hexValue c = none) {cs : List Char} (h : c ∈ cs) :
    UInt8.ofNat c.toNat ∈ decode cs := by
  induction cs using decode.induct with
  | case1 a b r x y hb ha ih =>
    have ha' : c ≠ a := by
      rintro rfl
      simp [hdigit] at ha
    have hb' : c ≠ b := by
      rintro rfl
      simp [hdigit] at hb
    simp only [List.mem_cons, hpercent, ha', hb', false_or] at h
    simp only [decode, ha, hb]
    exact List.mem_cons_of_mem _ (ih h)
  | case2 a b r hcode ih =>
    have hrest := (List.mem_cons.1 h).resolve_left hpercent
    rw [decode]
    split
    next x y ha hb => exact absurd hb (hcode x y ha)
    next => exact List.mem_cons_of_mem _ (ih hrest)
  | case3 d r hplain ih =>
    rw [decode]
    · rcases List.mem_cons.1 h with rfl | h
      · rw [Text.utf8EncodeChar_of_lt hc]
        exact List.mem_cons_self
      · exact List.mem_append_right _ (ih h)
    · exact hplain
  | case4 => cases h

namespace Idna

/-- No domain name holds the character, and nothing that is done to a name before changes it. -/
structure Banned (c : Char) : Prop where
  ascii : c.toNat < 0x80
  percent : c ≠ '%'
  digit : Text.hexValue c = none
  alone : Text.StandsAlone c
  mapped : mapped? c = some [c]
  forbidden : isForbidden c = true

theorem standsAlone_of_mem : ∀ c ∈ ['@', ':'], Text.StandsAlone c := by
  have hfamilies : ∀ f ∈ Text.families, ['@', ':'].all fun c =>
      f.first ≠ c.toNat ∧ ∀ m ∈ f.members, m.1 ≠ c.toNat := by
    -- Lists of characters are looked through faster than texts.
    unfold Text.families Text.Family.ofLines
    simp only [List.flatMap_cons, List.flatMap_nil]
    repeat rw [String.toList_ofList]
    decide +kernel
  intro c hc
  refine Text.standsAlone_of_ascii ?_ fun f hf => ?_
  · simp only [List.mem_cons, List.not_mem_nil, or_false] at hc
    obtain rfl | rfl := hc <;> decide
  · exact of_decide_eq_true (List.all_eq_true.1 (hfamilies f hf) c hc)

theorem banned_at : Banned '@' where
  ascii := by decide
  percent := by decide
  digit := by decide
  alone := standsAlone_of_mem _ (by decide)
  mapped := by decide +kernel
  forbidden := by decide

theorem banned_colon : Banned ':' where
  ascii := by decide
  percent := by decide
  digit := by decide
  alone := standsAlone_of_mem _ (by decide)
  mapped := by decide +kernel
  forbidden := by decide

variable {c : Char}

theorem Banned.mem_of_mapM_mapped? (hc : Banned c) {name : List Char} {parts : List (List Char)}
    (h : name.mapM mapped? = some parts) (hmem : c ∈ name) : c ∈ parts.flatten := by
  induction name generalizing parts with
  | nil => cases hmem
  | cons d name ih =>
    rw [List.mapM_cons, Option.bind_eq_bind, Option.bind_eq_some_iff] at h
    obtain ⟨part, hpart, h⟩ := h
    rw [Option.bind_eq_bind, Option.bind_eq_some_iff] at h
    obtain ⟨parts, hparts, ⟨⟩⟩ := h
    rw [List.flatten_cons, List.mem_append]
    rcases List.mem_cons.1 hmem with rfl | hmem
    · left
      obtain rfl := Option.some.inj (hpart.symm.trans hc.mapped)
      exact List.mem_singleton_self _
    · exact .inr (ih hparts hmem)

/-- What is left of a name holds none of the forbidden characters. -/
theorem not_isForbidden_of_normalized? {name cs : List Char} (h : normalized? name = some cs) :
    ∀ c ∈ cs, isForbidden c = false := by
  unfold normalized? at h
  cases hparts : name.mapM mapped? with
  | none => simp [hparts] at h
  | some parts =>
    simp only [hparts, Option.bind_eq_bind, Option.bind_some, Option.ite_none_left_eq_some,
      Option.some.injEq, Bool.not_eq_true] at h
    obtain ⟨hnone, rfl⟩ := h
    intro c hc
    simpa using List.any_eq_false.1 hnone c hc

/-- No domain name is written with a banned character. -/
theorem Banned.toAscii_eq_none (hc : Banned c) {name : List Char} (h : c ∈ name) :
    toAscii name = none := by
  have hnone : normalized? name = none := by
    unfold normalized?
    cases hparts : name.mapM mapped? with
    | none => rfl
    | some parts =>
      have hmem := hc.alone.mem_composed (hc.mem_of_mapM_mapped? hparts h)
      have hforbidden : (Text.composed parts.flatten).any isForbidden :=
        List.any_eq_true.2 ⟨c, hmem, hc.forbidden⟩
      simp only [Option.bind_eq_bind, Option.bind_some, hforbidden, if_true]
  simp only [toAscii, labels?, hnone]
  rfl

end Idna

namespace Host

theorem bracketed?_eq_none {cs : List Char} (h : cs.head? ≠ some '[') : bracketed? cs = none := by
  unfold bracketed?
  split
  · exact absurd rfl h
  · rfl

/-- A banned character, unless in brackets, is refused like any text that is no domain name. -/
theorem parse_of_mem {c : Char} (hc : Idna.Banned c) {cs : List Char} (hbracket : cs.head? ≠ some '[')
    (h : c ∈ cs) : parse cs = .error .invalidDomain := by
  have hname : (String.fromUTF8? ⟨(decode cs).toArray⟩).bind (fun s => Idna.toAscii s.toList) = none := by
    refine Option.bind_eq_none_iff.2 fun t ht => hc.toAscii_eq_none ?_
    exact Text.mem_of_fromUTF8? hc.ascii ht (mem_decode hc.ascii hc.percent hc.digit h)
  simp only [parse, bracketed?_eq_none hbracket, hname]

end Host

end ObjectVolume.Url
