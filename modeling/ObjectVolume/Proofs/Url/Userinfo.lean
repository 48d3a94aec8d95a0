import ObjectVolume.Url.Parse
import Mathlib.Data.List.TakeWhile
/-!
# User names and passwords in URLs

What is read of a URL has a user name or a password only where they can be removed, so that
`withoutUserinfo` leaves neither. And they are all that the text before the last at sign of an
authority makes of the URL: without that text the same URL is read, but for them.
-/
namespace ObjectVolume.Url

/-- The URL with neither user name nor password. -/
def bare (u : Url) : Url :=
  { u with username := "", password := none }

theorem withoutUserinfo_eq_bare {u : Url} (h : u.bare = u ∨ u.takesUserinfo) :
    u.withoutUserinfo = u.bare := by
  by_cases hu : u.takesUserinfo
  · have hkept : { u with username := written "" }.takesUserinfo = true := hu
    simp only [withoutUserinfo, setUsername, setPassword, hu, hkept, if_true, Option.getD_some]
    rfl
  · have hbare := h.resolve_right hu
    simp only [withoutUserinfo, setUsername, setPassword, hu, hbare, Bool.false_eq_true, if_false,
      Option.getD_none]

variable {family : Family} {scheme info back cs : List Char} {u : Url}

/-! ## What comes after the authority -/

/-- Query and fragment are added, and nothing else is changed. -/
theorem addQueryAndFragment_keeps (family : Family) (u : Url) (cs : List Char) :
    ∃ query fragment, addQueryAndFragment family u cs = { u with query, fragment } := by
  unfold addQueryAndFragment
  dsimp only
  split
  · exact ⟨_, _, rfl⟩
  · exact ⟨_, _, rfl⟩

theorem addPath_keeps (family : Family) (u : Url) (cs : List Char) :
    ∃ path query fragment, addPath family u cs = { u with path, query, fragment } := by
  obtain ⟨query, fragment, h⟩ := addQueryAndFragment_keeps family
    { u with path := .ofText family (cs.takeWhile (!endsPath ·)) } (cs.dropWhile (!endsPath ·))
  exact ⟨_, query, fragment, h⟩

theorem bare_addQueryAndFragment (family : Family) (u : Url) (cs : List Char) :
    (addQueryAndFragment family u cs).bare = addQueryAndFragment family u.bare cs := by
  unfold addQueryAndFragment
  dsimp only
  split <;> rfl

theorem bare_addPath (family : Family) (u : Url) (cs : List Char) :
    (addPath family u cs).bare = addPath family u.bare cs :=
  bare_addQueryAndFragment _ _ _

/-- What follows an authority is a path, or a query and a fragment, or nothing. -/
theorem addRest_cases (family : Family) (cs : List Char) :
    (∃ r, ∀ u, addRest family u cs = addPath family u r) ∨
      (∀ u, addRest family u cs = addQueryAndFragment family u cs) ∨
      ∀ u, addRest family u cs = u := by
  unfold addRest
  cases cs with
  | nil =>
    by_cases hf : family.isWellKnown
    · exact .inl ⟨[], by simp [hf]⟩
    · exact .inr (.inr (by simp [hf]))
  | cons c r =>
    by_cases hc : family.isSlash c
    · exact .inl ⟨r, by simp [hc]⟩
    by_cases hf : family.isWellKnown ∨ !endsPath c
    · exact .inl ⟨c :: r, fun u => by simp only [if_neg hc, if_pos hf]⟩
    · exact .inr (.inl fun u => by simp only [if_neg hc, if_neg hf])

/-- What follows an authority changes neither scheme nor host nor port. -/
theorem addRest_keeps (family : Family) (u : Url) (cs : List Char) :
    ∃ path query fragment, addRest family u cs = { u with path, query, fragment } := by
  obtain ⟨r, h⟩ | h | h := addRest_cases family cs
  · rw [h]
    exact addPath_keeps family u r
  · obtain ⟨query, fragment, hkeeps⟩ := addQueryAndFragment_keeps family u cs
    exact ⟨u.path, query, fragment, (h u).trans hkeeps⟩
  · exact ⟨u.path, u.query, u.fragment, h u⟩

theorem takesUserinfo_addRest (family : Family) (u : Url) (cs : List Char) :
    (addRest family u cs).takesUserinfo = u.takesUserinfo := by
  obtain ⟨path, query, fragment, h⟩ := addRest_keeps family u cs
  rw [h]
  rfl

theorem bare_addRest (family : Family) (u : Url) (cs : List Char) :
    (addRest family u cs).bare = addRest family u.bare cs := by
  obtain ⟨r, h⟩ | h | h := addRest_cases family cs <;> rw [h, h]
  · exact bare_addPath _ _ _
  · exact bare_addQueryAndFragment _ _ _

/-! ## Authorities -/

/-- A URL that ends with its authority. -/
def opening (scheme info : List Char) (host : Host) (port : Option Nat) : Url where
  scheme := String.ofList scheme
  username := (credentials info).1
  password := (credentials info).2
  host := some host
  port := if port = defaultPort scheme then none else port
  path := .segments []

theorem bare_opening (scheme info : List Char) (host : Host) (port : Option Nat) :
    (opening scheme info host port).bare = opening scheme [] host port :=
  rfl

/-- An authority is read if its host is, which stands there if there is a user name or a password. -/
theorem readServer_eq_ok_iff :
    readServer family scheme info cs = .ok u ↔ ∃ host port rest,
      readHost family cs = .ok (host, port, rest) ∧
      (host = .empty → credentials info = ("", none)) ∧
      u = addRest family (opening scheme info host port) rest := by
  unfold readServer
  cases readHost family cs with
  | error e => simp [bind, Except.bind]
  | ok split =>
    obtain ⟨host, port, rest⟩ := split
    have hrefused : (host = .empty ∧ ((credentials info).1 ≠ "" ∨ (credentials info).2.isSome)) ↔
        ¬(host = .empty → credentials info = ("", none)) := by
      simp only [Prod.ext_iff, Option.isSome_iff_ne_none]
      grind
    simp only [bind, Except.bind, hrefused]
    by_cases hstands : host = .empty → credentials info = ("", none)
    · rw [if_neg (not_not_intro hstands)]
      constructor
      · rintro ⟨⟩
        exact ⟨host, port, rest, rfl, hstands, rfl⟩
      · rintro ⟨_, _, _, ⟨⟩, -, rfl⟩
        rfl
    · rw [if_pos hstands]
      constructor
      · rintro ⟨⟩
      · rintro ⟨_, _, _, ⟨⟩, h, -⟩
        exact absurd h hstands

/-- What follows the last at sign ends where the whole authority does. -/
theorem takeWhile_of_splitUserinfo (h : splitUserinfo family cs = some (info, back)) :
    back.takeWhile (!family.endsAuthority ·) =
      ((cs.takeWhile (!family.endsAuthority ·)).reverse.takeWhile (· != '@')).reverse := by
  unfold splitUserinfo at h
  set ends : Char → Bool := (!family.endsAuthority ·)
  set authority := cs.takeWhile ends with hauthority
  dsimp only at h
  split at h
  case h_2 => cases h
  obtain ⟨-, hback⟩ := Prod.ext_iff.1 (Option.some.inj h)
  set host := (authority.reverse.takeWhile (· != '@')).reverse
  have hhost : ∀ c ∈ host, ends c := by
    intro c hc
    have hmem := (List.takeWhile_prefix _).subset (List.mem_reverse.1 hc)
    exact List.mem_takeWhile_imp (List.mem_reverse.1 hmem)
  have hrest : (cs.dropWhile ends).takeWhile ends = [] := by
    have hhead := List.head?_dropWhile_not ends cs
    cases h : cs.dropWhile ends with
    | nil => rfl
    | cons c r =>
      rw [h] at hhead
      exact List.takeWhile_cons_of_neg (by simpa using hhead)
  rw [← show _ = back from hback, List.takeWhile_append_of_pos hhost, hrest, List.append_nil]

/-- The authority at `cs`, and what follows it, without the text before its last at sign. -/
def afterUserinfo (family : Family) (cs : List Char) : List Char :=
  ((splitUserinfo family cs).map (·.2)).getD cs

theorem takeWhile_afterUserinfo_suffix (family : Family) (cs : List Char) :
    (afterUserinfo family cs).takeWhile (!family.endsAuthority ·) <:+
      cs.takeWhile (!family.endsAuthority ·) := by
  unfold afterUserinfo
  cases h : splitUserinfo family cs with
  | none => exact List.suffix_refl _
  | some split =>
    rw [Option.map_some, Option.getD_some, takeWhile_of_splitUserinfo h, ← List.reverse_prefix,
      List.reverse_reverse]
    exact List.takeWhile_prefix _

theorem of_readAuthority (h : readAuthority family scheme cs = .ok u) :
    ∃ info, readServer family scheme info (afterUserinfo family cs) = .ok u := by
  unfold readAuthority at h
  split at h
  case h_1 hs => exact ⟨[], by simpa [afterUserinfo, hs] using h⟩
  case h_2 c r hs =>
    split at h
    · cases h
    · exact ⟨[], by simpa [afterUserinfo, hs] using h⟩
  case h_3 info back _ hs => exact ⟨info, by simpa [afterUserinfo, hs] using h⟩

/-- A host takes a user name and a password, unless it is a file's. -/
theorem bare_or_takesUserinfo_of_readAuthority (hf : Family.ofScheme scheme ≠ .file)
    (h : readAuthority family scheme cs = .ok u) : u.bare = u ∨ u.takesUserinfo := by
  obtain ⟨info, h⟩ := of_readAuthority h
  obtain ⟨host, port, rest, -, hstands, rfl⟩ := readServer_eq_ok_iff.1 h
  rw [bare_addRest, takesUserinfo_addRest]
  by_cases hhost : host = .empty
  · left
    have hnone : opening scheme info host port = opening scheme [] host port := by
      simp only [opening, hstands hhost]
      rfl
    rw [bare_opening, hnone]
  · right
    have hscheme : (opening scheme info host port).scheme ≠ "file" := by
      intro e
      have he : scheme = "file".toList := by
        rw [← e]
        exact (String.toList_ofList).symm
      exact hf (by rw [he]; rfl)
    have htext : (opening scheme info host port).hostText? = some host.text := by
      cases host <;> first | rfl | exact absurd rfl hhost
    simp [takesUserinfo, htext, hscheme]

/-- A URL is read by the rules of its family. -/
theorem of_read (h : read cs = .ok u) :
    ∃ scheme rest, splitScheme cs = some (scheme, rest) ∧
      match Family.ofScheme scheme with
      | .file => readFile scheme rest = .ok u
      | .network =>
        readAuthority .network scheme (rest.dropWhile Family.network.isSlash) = .ok u
      | .other =>
        (∃ r, rest = '/' :: '/' :: r ∧ readAuthority .other scheme r = .ok u) ∨
          (∀ r, rest ≠ '/' :: '/' :: r) ∧ u.bare = u ∧ u.host = none ∧ u.port = none := by
  unfold read at h
  cases hs : splitScheme cs with
  | none => simp [hs, throw, throwThe, MonadExceptOf.throw] at h
  | some split =>
    obtain ⟨scheme, rest⟩ := split
    refine ⟨scheme, rest, rfl, ?_⟩
    simp only [hs] at h
    split
    case h_1 hf => simpa only [hf] using h
    case h_2 hf => simpa only [hf] using h
    case h_3 hf =>
      simp only [hf] at h
      split at h
      case h_1 r => exact .inl ⟨r, rfl, h⟩
      case h_2 r hr =>
        cases h
        obtain ⟨path, query, fragment, hkeeps⟩ := addPath_keeps .other
          { scheme := String.ofList scheme, path := .segments [] } r
        exact .inr ⟨fun r' e => hr r' (List.cons_eq_cons.1 e).2, bare_addPath _ _ _, by rw [hkeeps],
          by rw [hkeeps]⟩
      case h_3 hr _ =>
        cases h
        obtain ⟨query, fragment, hkeeps⟩ := addQueryAndFragment_keeps .other
          { scheme := String.ofList scheme,
            path := .plain (String.ofList (encode isControl (rest.takeWhile (!endsPath ·)))) }
          (rest.dropWhile (!endsPath ·))
        exact .inr ⟨hr, bare_addQueryAndFragment _ _ _, by rw [hkeeps], by rw [hkeeps]⟩

/-- A file has neither user name nor password. -/
theorem bare_of_readFile (h : readFile scheme cs = .ok u) : u.bare = u := by
  have of_path {v : Url} {r : List Char} (hv : v.bare = v)
      (h : Except.ok (addPath .file v r) = (.ok u : Except Problem Url)) : u.bare = u := by
    rw [← Except.ok.inj h, bare_addPath, hv]
  unfold readFile at h
  dsimp only at h
  split at h
  case h_2 => exact of_path rfl h
  case h_1 a b r =>
  split at h
  case isFalse => exact of_path rfl h
  case isTrue =>
  split at h
  case isTrue => exact of_path rfl h
  case isFalse =>
  cases hhost : Host.parse (r.takeWhile (!Family.file.endsAuthority ·)) with
  | error e => simp [hhost, bind, Except.bind] at h
  | ok host =>
    simp only [hhost, bind, Except.bind] at h
    split at h
    · exact of_path rfl h
    · exact of_path (by rw [apply_ite bare]; rfl) h

/-- A URL that is read has no user name and no password, unless both can be removed. -/
theorem bare_or_takesUserinfo (h : read cs = .ok u) : u.bare = u ∨ u.takesUserinfo := by
  obtain ⟨scheme, rest, -, h⟩ := of_read h
  split at h
  case h_1 => exact .inl (bare_of_readFile h)
  case h_2 hf => exact bare_or_takesUserinfo_of_readAuthority (by simp [hf]) h
  case h_3 hf =>
    obtain ⟨r, -, h⟩ | ⟨-, h, -⟩ := h
    · exact bare_or_takesUserinfo_of_readAuthority (by simp [hf]) h
    · exact .inl h

end ObjectVolume.Url
