import ObjectVolume.Cli.Arguments
import ObjectVolume.Proofs.Json.Reading
import Mathlib.Data.List.Perm.Subperm
import Mathlib.Data.List.Pairwise
/-!
# Options with their values

An option and its value, written as one argument, are read as that option with that value, whatever the
value is (`Spec.WellNamed.readAll_written`). What names an option is its only value if the option takes
one, so that it can be looked up again; and the environment adds values only for options that are not
given.
-/
namespace ObjectVolume.Cli

/-! ## Integers -/

theorem digitsValue?_toDigits (n : Nat) : digitsValue? (Nat.toDigits 10 n) = some n := by
  have hdigits : (Nat.toDigits 10 n).any (!·.isDigit) = false := by
    rw [List.any_eq_false]
    intro c hc
    simp [Nat.isDigit_of_mem_toDigits (by decide) (by decide) hc]
  have hne : (Nat.toDigits 10 n).isEmpty = false := by
    simp [List.isEmpty_eq_false_iff, Nat.toDigits_ne_nil]
  unfold digitsValue?
  rw [hdigits, hne, if_neg (by simp)]
  exact congrArg some Nat.ofDigitChars_ten_toDigits

/-- A numeral starts with a digit, not with a sign. -/
theorem exists_toDigits_eq_cons (n : Nat) : ∃ c cs, Nat.toDigits 10 n = c :: cs ∧ c ≠ '+' ∧ c ≠ '-' := by
  obtain ⟨c, cs, hcs⟩ := List.exists_cons_of_ne_nil (Nat.toDigits_ne_nil (b := 10) (n := n))
  have hdigit : c.isDigit = true :=
    Nat.isDigit_of_mem_toDigits (by decide) (by decide) (hcs ▸ List.mem_cons_self)
  refine ⟨c, cs, hcs, ?_, ?_⟩
  · rintro rfl
    cases hdigit
  · rintro rfl
    cases hdigit

theorem readUnsigned?_toString {n : Nat} (h : n < UInt64.size) :
    readUnsigned? (toString n) = some n := by
  have hchars : (toString n).toList = Nat.toDigits 10 n := Json.integerText_ofNat n
  obtain ⟨c, cs, hcs, hplus, -⟩ := exists_toDigits_eq_cons n
  have hvalue := digitsValue?_toDigits n
  unfold readUnsigned?
  rw [hchars]
  rw [hcs] at hvalue ⊢
  split
  next r heq => exact absurd (List.cons.inj heq).1 hplus
  next => simp [hvalue, h]

theorem readSigned?_toString (n : Int64) : readSigned? (toString n.toInt) = some n.toInt := by
  have hfits : Int64.minValue.toInt ≤ n.toInt ∧ n.toInt ≤ Int64.maxValue.toInt :=
    ⟨Int64.le_iff_toInt_le.1 (Int64.minValue_le n), Int64.le_iff_toInt_le.1 (Int64.le_maxValue n)⟩
  unfold readSigned?
  generalize n.toInt = k at hfits ⊢
  cases k with
  | ofNat m =>
    rw [show (toString (Int.ofNat m)).toList = Nat.toDigits 10 m from Json.integerText_ofNat m]
    obtain ⟨c, cs, hcs, hplus, hminus⟩ := exists_toDigits_eq_cons m
    have hvalue := digitsValue?_toDigits m
    rw [hcs] at hvalue ⊢
    split
    next r heq => exact absurd (List.cons.inj heq).1 hminus
    next r heq => exact absurd (List.cons.inj heq).1 hplus
    next => simpa [hvalue] using hfits
  | negSucc m =>
    rw [show (toString (Int.negSucc m)).toList = '-' :: Nat.toDigits 10 (m + 1) from
      Json.integerText_negSucc m]
    simpa [digitsValue?_toDigits, Int.negOfNat] using hfits

/-! ## Options -/

/-- An option and its value in one argument. -/
def written (g : String × String) : String := "--" ++ g.1 ++ "=" ++ g.2

/-- What names a subcommand is no option, and an equals sign ends the name of an option. -/
structure Spec.WellNamed (c : Spec) : Prop where
  subcommands : ∀ name ∈ c.subcommands, name.toList.head? ≠ some '-'
  options : ∀ o ∈ c.options, '=' ∉ o.name.toList

/-- A command has options for these values, and only repeatable ones for several. -/
structure Spec.Takes (c : Spec) (given : List (String × String)) : Prop where
  accepts : ∀ g ∈ given, ∃ o, c.options.find? (·.name == g.1) = some o ∧ o.kind.accepts g.2
  once : given.Pairwise fun g h =>
    g.1 = h.1 → ∃ o, c.options.find? (·.name == g.1) = some o ∧ o.repeatable

variable {c : Spec} {s : State} {given : List (String × String)} {name value : String} {o : OptionSpec}

theorem toList_written (g : String × String) :
    (written g).toList = '-' :: '-' :: (g.1.toList ++ '=' :: g.2.toList) := by
  simp [written]

theorem splitLong_append (hname : '=' ∉ name.toList) (value : String) :
    splitLong (name.toList ++ '=' :: value.toList) = (name, some value) := by
  have hne : ∀ c ∈ name.toList, (c != '=') = true := by
    rintro c hc
    refine bne_iff_ne.2 ?_
    rintro rfl
    exact hname hc
  unfold splitLong
  rw [List.takeWhile_append_of_pos hne, List.dropWhile_append_of_pos hne]
  simp

/-- Values may come in any order, and need not all be given. -/
theorem Spec.Takes.of_subperm {given' : List (String × String)} (h : c.Takes given)
    (hsub : given'.Subperm given) : c.Takes given' := by
  obtain ⟨l, hperm, hsublist⟩ := hsub
  refine ⟨fun g hg => h.accepts g (hsublist.subset (hperm.symm.subset hg)), ?_⟩
  refine (hperm.pairwise_iff ?_).1 (h.once.sublist hsublist)
  intro g g' hg heq
  rw [heq]
  exact heq ▸ hg heq.symm

theorem Spec.once_of_nodup (c : Spec) (h : (given.map (·.1)).Nodup) : given.Pairwise fun g h =>
    g.1 = h.1 → ∃ o, c.options.find? (·.name == g.1) = some o ∧ o.repeatable :=
  (List.pairwise_map.1 h).imp fun hne heq => absurd heq hne

/-- A value that is given for an option is its only one. -/
theorem Spec.Takes.eq_of_mem (takes : c.Takes given)
    (hfind : c.options.find? (·.name == name) = some o) (hsingle : o.repeatable = false)
    (hmem : (name, value) ∈ given) : ∀ g ∈ given, g.1 = name → g.2 = value := by
  have : Std.Symm fun g h : String × String =>
      g.1 = h.1 → ∃ o, c.options.find? (·.name == g.1) = some o ∧ o.repeatable := by
    constructor
    intro g h hg heq
    rw [heq]
    exact heq ▸ hg heq.symm
  intro g hg heq
  by_contra hne
  have hdistinct : g ≠ (name, value) := by
    rintro rfl
    exact hne rfl
  obtain ⟨o', hfind', hrepeatable⟩ := takes.once.forall hg hmem hdistinct heq
  rw [heq, hfind] at hfind'
  simp [← Option.some.inj hfind', hsingle] at hrepeatable

theorem readArgument_long {argument : String} {cs : List Char} (going : s.trailing = false)
    (hchars : argument.toList = '-' :: '-' :: cs) (hne : cs ≠ []) :
    c.readArgument s argument = c.readLong s cs := by
  obtain ⟨d, ds, rfl⟩ := List.exists_cons_of_ne_nil hne
  simp only [Spec.readArgument, going, hchars, Bool.false_eq_true, if_false]

/-- An argument that gives an option its value. -/
theorem Spec.WellNamed.readArgument_written (named : c.WellNamed) (idle : s.pending = none)
    (going : s.trailing = false) (hfind : c.options.find? (·.name == name) = some o)
    (accepts : o.kind.accepts value)
    (once : o.repeatable = true ∨ ∀ g ∈ s.values, g.1 ≠ name) :
    c.readArgument s (written (name, value)) =
      .ok { s with values := s.values ++ [(name, value)] } := by
  have hname : o.name = name := by simpa using List.find?_some hfind
  have hsplit := splitLong_append (hname ▸ named.options o (List.mem_of_find?_eq_some hfind)) value
  have hfree : ¬ (!o.repeatable ∧ s.values.any (·.1 == o.name)) := by
    rintro ⟨hrepeatable, hgiven⟩
    obtain ⟨g, hg, heq⟩ := List.any_eq_true.1 hgiven
    rcases once with hyes | hnone
    · simp [hyes] at hrepeatable
    · exact hnone g hg (by simpa [hname] using heq)
  have htake : s.take o value = .ok { s with values := s.values ++ [(name, value)] } := by
    unfold State.take
    rw [if_neg hfree, if_pos accepts, hname]
  have hsettle : s.settle = .ok s := by
    unfold State.settle
    rw [idle]
  have hlong : c.readLong s (name.toList ++ '=' :: value.toList) = s.take o value := by
    unfold readLong
    simp only [hsplit, hfind, hsettle]
    rfl
  rw [readArgument_long going (toList_written (name, value)) (by simp), hlong, htake]

/-- Options that are given one after the other. -/
theorem Spec.WellNamed.readAll_written (named : c.WellNamed) (idle : s.pending = none)
    (going : s.trailing = false) (takes : c.Takes (s.values ++ given)) (rest : List String) :
    c.readAll s (given.map written ++ rest) =
      c.readAll { s with values := s.values ++ given } rest := by
  induction given generalizing s with
  | nil => simp
  | cons g given ih =>
    obtain ⟨name, value⟩ := g
    obtain ⟨o, hfind, haccepts⟩ := takes.accepts (name, value) (by simp)
    have honce : o.repeatable = true ∨ ∀ g ∈ s.values, g.1 ≠ name := by
      by_cases hany : ∃ g ∈ s.values, g.1 = name
      · obtain ⟨g, hg, heq⟩ := hany
        obtain ⟨o', hfind', hrepeatable⟩ :=
          (List.pairwise_append.1 takes.once).2.2 g hg (name, value) (by simp) heq
        rw [heq, hfind] at hfind'
        exact .inl (Option.some.inj hfind' ▸ hrepeatable)
      · exact .inr fun g hg heq => hany ⟨g, hg, heq⟩
    have hname : ¬ (!s.trailing ∧ !s.isWaiting ∧ c.subcommands.contains (written (name, value))) := by
      rintro ⟨-, -, hmem⟩
      refine named.subcommands _ (List.contains_iff_mem.1 hmem) ?_
      rw [toList_written, List.head?_cons]
    rw [List.map_cons, List.cons_append, readAll, if_neg hname,
      named.readArgument_written idle going hfind haccepts honce]
    have hrest := ih (s := { s with values := s.values ++ [(name, value)] }) idle going
      (by simpa using takes)
    rw [List.append_assoc, List.singleton_append] at hrest
    exact hrest

/-- After two hyphens the next argument is the positional one, whatever it is. -/
theorem Spec.readAll_trailing (hc : c.positional = true) (hnone : c.subcommands = [])
    (idle : s.pending = none) (going : s.trailing = false) (first : s.positional = none)
    (bucket : String) :
    c.readAll s ["--", bucket] =
      .ok ({ s with trailing := true, positional := some bucket }, none) := by
  have hhyphens : c.readArgument s "--" = .ok { s with trailing := true } := by
    unfold readArgument
    simp [going]
  have hbucket : c.readArgument { s with trailing := true } bucket =
      .ok { s with trailing := true, positional := some bucket } := by
    unfold readArgument readPositional State.settle
    simp only [hc, first, idle]
    rfl
  simp only [readAll, hnone, hhyphens, hbucket, List.contains_nil, Bool.false_eq_true, and_false,
    if_false, bind, Except.bind]

/-! ## Values -/

/-- The values that the environment has for options that are not given. -/
def inherited (env : Environment) (given : List (String × String)) (options : List OptionSpec) :
    List (String × String) :=
  options.filterMap fun o =>
    if given.any (·.1 == o.name) then none else (o.envName?.bind env).map (o.name, ·)

variable {env : Environment} {options : List OptionSpec}

/-- The values of the environment can be read. -/
def Spec.Inherits (c : Spec) (env : Environment) : Prop :=
  ∀ o ∈ c.options, ∀ value, o.envName?.bind env = some value → o.kind.accepts value

theorem inherit_eq
    (h : ∀ o ∈ options, ∀ value, o.envName?.bind env = some value → o.kind.accepts value) :
    inherit env given options = .ok (inherited env given options) := by
  induction options with
  | nil => rfl
  | cons o options ih =>
    have ih := ih fun o' ho' => h o' (List.mem_cons_of_mem _ ho')
    unfold inherit inherited
    rw [ih, List.filterMap_cons]
    by_cases hgiven : given.any (·.1 == o.name)
    · simp only [hgiven, if_true]
      rfl
    · simp only [hgiven, Bool.false_eq_true, if_false]
      cases hvalue : o.envName?.bind env with
      | none => rfl
      | some value =>
        simp only [h o List.mem_cons_self value hvalue, if_true]
        rfl

/-- The environment has no value for an option without a variable that is set. -/
theorem lookup_inherited_eq_none (h : ∀ o ∈ options, o.name = name → o.envName?.bind env = none) :
    (inherited env given options).lookup name = none := by
  rw [List.lookup_eq_none_iff]
  intro g hg
  obtain ⟨o, ho, hvalue⟩ := List.mem_filterMap.1 hg
  split at hvalue
  next => cases hvalue
  next =>
    obtain ⟨value, henv, rfl⟩ := Option.map_eq_some_iff.1 hvalue
    refine bne_iff_ne.2 ?_
    rintro rfl
    simp [h o ho rfl] at henv

theorem finish_eq (inherits : c.Inherits env) (idle : s.pending = none) :
    c.finish env s = .ok ⟨s.values, inherited env s.values c.options, s.positional⟩ := by
  have hsettle : s.settle = .ok s := by
    unfold State.settle
    rw [idle]
  unfold Spec.finish
  rw [hsettle]
  simp only [bind, Except.bind, inherit_eq inherits]
  rfl

namespace Matches

variable {m : Matches}

theorem mem_argumentsFor : value ∈ m.argumentsFor name ↔ (name, value) ∈ m.given := by
  simp [argumentsFor, List.mem_filterMap]

/-- An option has the value that is given for it. -/
theorem argumentFor?_eq_some (hmem : (name, value) ∈ m.given)
    (honly : ∀ g ∈ m.given, g.1 = name → g.2 = value) : m.argumentFor? name = some value := by
  unfold argumentFor?
  have hvalue : value ∈ m.argumentsFor name := mem_argumentsFor.2 hmem
  cases hl : m.argumentsFor name with
  | nil => simp [hl] at hvalue
  | cons v vs =>
    have hv : v ∈ m.argumentsFor name := hl ▸ List.mem_cons_self
    exact congrArg some (honly _ (mem_argumentsFor.1 hv) rfl)

theorem argumentFor?_eq_none (hnone : ∀ g ∈ m.given, g.1 ≠ name) : m.argumentFor? name = none := by
  unfold argumentFor?
  rw [List.head?_eq_none_iff, List.eq_nil_iff_forall_not_mem]
  exact fun v hv => hnone _ (mem_argumentsFor.1 hv) rfl

theorem value?_eq_some (hmem : (name, value) ∈ m.given)
    (honly : ∀ g ∈ m.given, g.1 = name → g.2 = value) : m.value? name = some value := by
  unfold value?
  rw [argumentFor?_eq_some hmem honly]
  rfl

theorem argumentsFor_eq (m : Matches) (name : String) :
    m.argumentsFor name = (m.given.filter (·.1 == name)).map (·.2) := by
  unfold argumentsFor
  generalize m.given = l
  induction l with
  | nil => rfl
  | cons g l ih =>
    by_cases h : g.1 = name
    · simp [h, ih]
    · simp [h, ih]

end Matches

end ObjectVolume.Cli
