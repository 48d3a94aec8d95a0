import Mathlib.Data.List.Basic
import ObjectVolume.Proofs.Url.Written
/-!
# Texts that are no IPv6 addresses

No character is in an IPv6 address but hexadecimal digits, colons and dots (`Ipv6.parse_eq_none`).
-/
namespace ObjectVolume.Url

theorem mapM_eq_none {α β : Type} {f : α → Option β} {a : α} (ha : f a = none) {as : List α}
    (h : a ∈ as) : as.mapM f = none := by
  induction as with
  | nil => cases h
  | cons b as ih =>
    rw [List.mapM_cons]
    rcases List.mem_cons.1 h with rfl | h
    · rw [ha]
      rfl
    · rw [ih h]
      cases f b <;> rfl

theorem mem_splitOn {sep c : Char} (hne : c ≠ sep) {cs : List Char} (h : c ∈ cs) :
    ∃ part ∈ cs.splitOn sep, c ∈ part := by
  rw [← @List.intercalate_splitOn _ cs _ _ sep] at h
  exact (mem_intercalate h).resolve_right fun hsep => hne (List.mem_singleton.1 hsep)

variable {c : Char} {cs : List Char}

theorem Ipv4.ofDigits_eq_none (hdigit : Text.hexValue c = none) (base : Nat) (h : c ∈ cs) :
    ofDigits base cs = none := by
  unfold ofDigits
  generalize some 0 = value
  induction cs generalizing value with
  | nil => cases h
  | cons d cs ih =>
    rw [List.foldl_cons]
    rcases List.mem_cons.1 h with rfl | h
    · -- Whatever comes after a character that is no digit, there is no value any more.
      rw [hdigit]
      refine List.foldl_fixed' (fun d => ?_) cs
      cases Text.hexValue d with
      | none => rfl
      | some n => exact ite_self none
    · exact ih h _

namespace Ipv6

theorem of_splitDoubleColon {front back : List Char}
    (h : splitDoubleColon cs = some (front, back)) : cs = front ++ ':' :: ':' :: back := by
  induction cs using splitDoubleColon.induct generalizing front with
  | case1 r =>
    cases h
    rfl
  | case2 c r hne ih =>
    rw [splitDoubleColon.eq_2 _ _ hne, Option.map_eq_some_iff] at h
    obtain ⟨⟨front', back'⟩, hrest, ⟨⟩⟩ := h
    rw [ih hrest]
    rfl
  | case3 => cases h

section

variable (hdigit : Text.hexValue c = none)
include hdigit

theorem group?_eq_none (h : c ∈ cs) : group? cs = none := by
  simp [group?, Ipv4.ofDigits_eq_none hdigit 16 h]

theorem byte?_eq_none (h : c ∈ cs) : byte? cs = none := by
  simp [byte?, Ipv4.ofDigits_eq_none hdigit 10 h]

variable (hdot : c ≠ '.')
include hdot

theorem dotted?_eq_none (h : c ∈ cs) : dotted? cs = none := by
  obtain ⟨part, hpart, hmem⟩ := mem_splitOn hdot h
  unfold dotted? Ipv4.splitDots
  rw [mapM_eq_none (byte?_eq_none hdigit hmem) hpart]
  rfl

theorem values?_eq_none {tail : Bool} {parts : List (List Char)} (h : ∃ part ∈ parts, c ∈ part) :
    values? tail parts = none := by
  induction parts with
  | nil => simp at h
  | cons part parts ih =>
    cases parts with
    | nil =>
      have hmem : c ∈ part := by simpa using h
      rw [values?, dotted?_eq_none hdigit hdot hmem, group?_eq_none hdigit hmem]
      exact ite_self none
    | cons next parts =>
      rw [values?.eq_3 _ _ _ (List.cons_ne_nil _ _)]
      obtain ⟨part', hpart, hmem⟩ := h
      rcases List.mem_cons.1 hpart with rfl | hpart
      · rw [group?_eq_none hdigit hmem]
        rfl
      · rw [ih ⟨part', hpart, hmem⟩]
        cases group? part <;> rfl

variable (hcolon : c ≠ ':')
include hcolon

theorem groups?_eq_none (tail : Bool) (h : c ∈ cs) : groups? tail cs = none := by
  unfold groups?
  rw [if_neg (by simpa using List.ne_nil_of_mem h)]
  exact values?_eq_none hdigit hdot (mem_splitOn hcolon h)

theorem parse_eq_none (h : c ∈ cs) : parse cs = none := by
  unfold parse
  split
  · rw [groups?_eq_none hdigit hdot hcolon true h]
    rfl
  next front back hsplit =>
    have hmem : c ∈ front ∨ c ∈ back := by
      rw [of_splitDoubleColon hsplit] at h
      simpa [hcolon] using h
    rcases hmem with hmem | hmem
    · rw [groups?_eq_none hdigit hdot hcolon false hmem]
      rfl
    · rw [groups?_eq_none hdigit hdot hcolon true hmem]
      cases groups? false front <;> rfl

end

end Ipv6

end ObjectVolume.Url
