import ObjectVolume.Proofs.Descriptor
/-!
# Keys of prefixes

A prefix and its normal form name the same directory, and two directories share keys only if they are
the same or one is nested in the other (`directories_overlap_iff`). Marker, scope and descriptor of a
prefix therefore never get in the way of those of another one: `keys_apart`.
-/
namespace ObjectVolume.Prefix

/-! ## Normal forms -/

/-- A prefix is its normal form with slashes after it. -/
theorem toList_eq_normalize_append (p : String) :
    ∃ n, p.toList = (normalize p).toList ++ List.replicate n '/' := by
  have hslashes : p.toList.reverse.takeWhile (· == '/') =
      List.replicate (p.toList.reverse.takeWhile (· == '/')).length '/' := by
    refine List.eq_replicate_of_mem fun c hc => ?_
    simpa using List.all_eq_true.1 List.all_takeWhile c hc
  have hsplit : p.toList.reverse =
      p.toList.reverse.takeWhile (· == '/') ++ p.toList.reverse.dropWhile (· == '/') :=
    List.takeWhile_append_dropWhile.symm
  have hreverse := congrArg List.reverse hsplit
  rw [List.reverse_reverse, List.reverse_append, hslashes, List.reverse_replicate] at hreverse
  exact ⟨_, by simpa [normalize, dropTrailingSlashes] using hreverse⟩

theorem getLast?_normalize (p : String) : (normalize p).toList.getLast? ≠ some '/' := by
  intro hlast
  simp only [normalize, dropTrailingSlashes, String.toList_ofList, List.getLast?_reverse] at hlast
  have hfirst := List.head?_dropWhile_not (· == '/') p.toList.reverse
  simp [hlast] at hfirst

/-! ## Directories -/

/-- Something lies in two directories exactly if they are the same, or one is nested in the other. -/
theorem directories_overlap_iff {n m : List Char} :
    (∃ l, n ++ ['/'] <+: l ∧ m ++ ['/'] <+: l) ↔ n = m ∨ n ++ ['/'] <+: m ∨ m ++ ['/'] <+: n := by
  have hnone : '/' ∉ ([] : List Char) := List.not_mem_nil
  constructor
  · rintro ⟨l, hn, hm⟩
    rcases List.prefix_or_prefix_of_prefix hn hm with h | h
    · exact ((Descriptor.prefix_directory_iff hnone).1 h).imp id .inl
    · exact ((Descriptor.prefix_directory_iff hnone).1 h).imp Eq.symm .inr
  · rintro (rfl | h | h)
    · exact ⟨_, List.prefix_rfl, List.prefix_rfl⟩
    · exact ⟨_, (Descriptor.prefix_directory_iff hnone).2 (.inr h), List.prefix_rfl⟩
    · exact ⟨_, List.prefix_rfl, (Descriptor.prefix_directory_iff hnone).2 (.inr h)⟩

/-- The scopes of two prefixes share a key exactly if the prefixes are the same, or one is nested in the
other. -/
theorem scopes_overlap_iff {p q : String} (hp : normalize p ≠ "") (hq : normalize q ≠ "") :
    (∃ key : String, (scope p).toList <+: key.toList ∧ (scope q).toList <+: key.toList) ↔
      normalize p = normalize q ∨ (normalize p ++ "/").toList <+: (normalize q).toList ∨
        (normalize q ++ "/").toList <+: (normalize p).toList := by
  have hdirectory (n : String) : (n ++ "/").toList = n.toList ++ ['/'] := by simp
  rw [Descriptor.toList_scope_of_not_root hp, Descriptor.toList_scope_of_not_root hq, hdirectory,
    hdirectory, ← String.toList_inj, ← directories_overlap_iff]
  constructor
  · rintro ⟨key, hbelow⟩
    exact ⟨key.toList, hbelow⟩
  · rintro ⟨l, hbelow⟩
    exact ⟨String.ofList l, by simpa using hbelow⟩

/-- The directory lies next to its scope, not in it. -/
theorem not_scope_prefix_normalize {p : String} (hp : normalize p ≠ "") :
    ¬ (scope p).toList <+: (normalize p).toList := by
  intro h
  have hlength := h.length_le
  rw [Descriptor.toList_scope_of_not_root hp, List.length_append, List.length_singleton] at hlength
  omega

/-! ## Keys of two prefixes -/

/-- **Prefixes do not get in each other's way.** The normal form of a prefix, which is the prefix without
the slashes at its end, settles all of its keys; descriptors of different prefixes have different keys,
none of which is a marker; and two prefixes share keys only if one of them is nested in the other. -/
theorem keys_apart (p q : String) :
    ((∃ n, p.toList = (normalize p).toList ++ List.replicate n '/') ∧
      (normalize p).toList.getLast? ≠ some '/' ∧ normalize (normalize p) = normalize p) ∧
    (normalize p = normalize q →
      marker p = marker q ∧ scope p = scope q ∧ Descriptor.key p = Descriptor.key q) ∧
    (Descriptor.key p = Descriptor.key q ↔ normalize p = normalize q) ∧
    (scope p).toList <+: (Descriptor.key p).toList ∧ Descriptor.key p ≠ marker q ∧
    (normalize p ≠ "" → normalize q ≠ "" →
      ((∃ key : String, (scope p).toList <+: key.toList ∧ (scope q).toList <+: key.toList) ↔
        normalize p = normalize q ∨ (normalize p ++ "/").toList <+: (normalize q).toList ∨
          (normalize q ++ "/").toList <+: (normalize p).toList)) ∧
    (normalize p ≠ "" → ¬ (scope p).toList <+: (normalize p).toList) := by
  refine ⟨⟨toList_eq_normalize_append p, getLast?_normalize p, normalize_normalize p⟩, ?_,
    Descriptor.key_inj, ?_, Descriptor.key_ne_marker p q, scopes_overlap_iff,
    not_scope_prefix_normalize⟩
  · intro h
    refine ⟨?_, ?_, Descriptor.key_inj.2 h⟩
    · rw [← marker_normalize p, h, marker_normalize]
    · rw [← scope_normalize p, h, scope_normalize]
  · exact Descriptor.scope_prefix_key_iff.2 (.inr (.inl rfl))

/-- Siblings share no key, although the name of one starts with that of the other. -/
theorem keys_apart_siblings :
    marker "vol-a//" = "vol-a/" ∧ scope "vol-a//" = scope "vol-a" ∧
      ¬ ∃ key : String, (scope "vol-a//").toList <+: key.toList ∧
        (scope "vol-ab").toList <+: key.toList := by
  obtain ⟨-, hsame, -⟩ := keys_apart "vol-a//" "vol-a"
  obtain ⟨-, -, -, -, -, hoverlap, -⟩ := keys_apart "vol-a//" "vol-ab"
  have hnormal : normalize "vol-a//" = normalize "vol-a" := by decide
  refine ⟨by decide, (hsame hnormal).2.1, ?_⟩
  rw [hoverlap (by decide) (by decide)]
  decide

end ObjectVolume.Prefix
