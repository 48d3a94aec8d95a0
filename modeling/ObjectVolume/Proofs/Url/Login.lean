import ObjectVolume.Proofs.Url.Host
import ObjectVolume.Proofs.Url.Userinfo
/-!
# Logins

A login is a user name and a password that stand in a URL in front of the host. Whether the URL is read,
and what else than user name and password is read of it, is the same whatever the login is
(`parse_login_alike`).
-/
namespace ObjectVolume.Url

/-- Characters that separate the parts of a URL, and those that are dropped from it. -/
def isSpecial (c : Char) : Bool :=
  [':', '/', '\\', '?', '#', '[', ']', '@', '\t', '\n', '\r'].contains c

/-- A user name and a password, at least one of which is given. -/
structure Login where
  user : String
  password : String
  not_special : (user.toList ++ password.toList).all (!isSpecial ·)
  given : user ≠ "" ∨ password ≠ ""

namespace Login

def text (l : Login) : String :=
  l.user ++ ":" ++ l.password

/-- The text of a URL with the login in front of what follows the two slashes. -/
def urlText (l : Login) (scheme rest : String) : String :=
  scheme ++ "://" ++ l.text ++ "@" ++ rest

variable {l : Login} {c : Char}

theorem toList_text (l : Login) : l.text.toList = l.user.toList ++ ':' :: l.password.toList := by
  simp [text]

theorem isSpecial_eq_false (hc : c ∈ l.user.toList ++ l.password.toList) : isSpecial c = false := by
  simpa using List.all_eq_true.1 l.not_special c hc

/-- Nothing special is in a login but the colon. -/
theorem eq_of_mem_text (hc : c ∈ l.text.toList) : c = ':' ∨ isSpecial c = false := by
  rw [toList_text, List.mem_append, List.mem_cons] at hc
  rcases hc with hc | rfl | hc
  · exact .inr (isSpecial_eq_false (List.mem_append_left _ hc))
  · exact .inl rfl
  · exact .inr (isSpecial_eq_false (List.mem_append_right _ hc))

/-- Nothing in a login is dropped from the URL, ends the authority or starts an address. -/
theorem plain_of_mem_text (hc : c ∈ l.text.toList) :
    c ≠ '/' ∧ c ≠ '\\' ∧ c ≠ '?' ∧ c ≠ '#' ∧ c ≠ '[' ∧ c ≠ '\t' ∧ c ≠ '\n' ∧ c ≠ '\r' := by
  rcases eq_of_mem_text hc with rfl | hc
  · decide
  · simp only [isSpecial, List.contains_cons, Bool.or_eq_false_iff, beq_eq_false_iff_ne] at hc
    obtain ⟨-, hslash, hbackslash, hquery, hfragment, hbracket, -, -, htab, hfeed, hreturn, -⟩ := hc
    exact ⟨hslash, hbackslash, hquery, hfragment, hbracket, htab, hfeed, hreturn⟩

theorem endsAuthority_of_mem_text (family : Family) (hc : c ∈ l.text.toList) :
    family.endsAuthority c = false := by
  obtain ⟨hslash, hbackslash, hquery, hfragment, -⟩ := plain_of_mem_text hc
  simp [Family.endsAuthority, Family.isSlash, hslash, hbackslash, hquery, hfragment]

theorem exists_cons (l : Login) : ∃ c ∈ l.text.toList, ∃ r, l.text.toList = c :: r := by
  rw [toList_text]
  cases l.user.toList with
  | nil => exact ⟨_, List.mem_cons_self, _, rfl⟩
  | cons c r => exact ⟨c, List.mem_cons_self, _, rfl⟩

/-! ## What is read of a login -/

theorem encode_ne_nil {escaped : Char → Bool} {cs : List Char} (h : cs ≠ []) :
    encode escaped cs ≠ [] := by
  obtain ⟨c, r, rfl⟩ := List.exists_cons_of_ne_nil h
  obtain ⟨b, bs, hbytes⟩ := List.exists_cons_of_ne_nil (String.utf8EncodeChar_ne_nil (c := c))
  unfold encode encodeChar
  rw [List.flatMap_cons, hbytes]
  split <;> simp [encodeByte]

theorem written_ne_empty {s : String} (h : s ≠ "") : written s ≠ "" := by
  have hchars : s.toList ≠ [] := by simpa using h
  simpa [written] using encode_ne_nil hchars

/-- Something is read of a login, whatever follows it. -/
theorem credentials_ne_none (l : Login) (after : List Char) :
    credentials (l.text.toList ++ after) ≠ ("", none) := by
  have huser : (l.text.toList ++ after).takeWhile (· != ':') = l.user.toList ∧
      (l.text.toList ++ after).dropWhile (· != ':') = ':' :: (l.password.toList ++ after) := by
    have hcolon : ∀ c ∈ l.user.toList, c != ':' := by
      intro c hc
      refine bne_iff_ne.2 ?_
      rintro rfl
      exact Bool.noConfusion (isSpecial_eq_false (List.mem_append_left l.password.toList hc))
    rw [toList_text, List.append_assoc, List.takeWhile_append_of_pos hcolon,
      List.dropWhile_append_of_pos hcolon]
    simp
  unfold credentials
  rw [huser.1, huser.2]
  intro h
  obtain ⟨hname, hpassword⟩ := Prod.ext_iff.1 h
  rcases l.given with hgiven | hgiven
  · exact written_ne_empty hgiven (by simpa using hname)
  · have hempty : l.password = "" ∧ after = [] := by simpa using hpassword
    exact hgiven hempty.1

end Login

/-! ## Splitting a URL -/

theorem dropWhile_append_cons {α : Type} {p : α → Bool} {a : α} (ha : p a = false) (xs ys : List α) :
    (xs ++ a :: ys).dropWhile p = xs.dropWhile p ++ a :: ys := by
  rw [List.dropWhile_append]
  split
  next h => simp [List.isEmpty_iff.1 h, ha]
  next => rfl

theorem takeWhile_append_cons {α : Type} {p : α → Bool} {a : α} (ha : p a = false) (xs ys : List α) :
    (xs ++ a :: ys).takeWhile p = xs.takeWhile p := by
  rw [List.takeWhile_append]
  split
  next h => simp [ha, (List.takeWhile_prefix p).eq_of_length h]
  next => rfl

/-- Before and after the login, the same characters count whatever the login is. -/
theorem exists_significant (scheme rest : String) : ∃ front back : List Char,
    front ⊆ scheme.toList ∧ ∀ l : Login,
      significant (l.urlText scheme rest) =
        front ++ ':' :: '/' :: '/' :: (l.text.toList ++ '@' :: back) := by
  let isEdge (c : Char) : Bool := c.toNat ≤ 0x20
  let keeps (c : Char) : Bool := c != '\t' && c != '\n' && c != '\r'
  refine ⟨(scheme.toList.dropWhile isEdge).filter keeps,
    ((rest.toList.reverse.dropWhile isEdge).reverse).filter keeps, fun c hc => ?_, fun l => ?_⟩
  · exact (List.dropWhile_suffix isEdge).subset (List.mem_filter.1 hc).1
  · have hkept : l.text.toList.filter keeps = l.text.toList := by
      refine List.filter_eq_self.2 fun c hc => ?_
      obtain ⟨-, -, -, -, -, htab, hfeed, hreturn⟩ := Login.plain_of_mem_text hc
      simp [keeps, htab, hfeed, hreturn]
    have hchars : (l.urlText scheme rest).toList =
        scheme.toList ++ ':' :: ('/' :: '/' :: l.text.toList ++ '@' :: rest.toList) := by
      simp [Login.urlText]
    have hfront : (l.urlText scheme rest).toList.dropWhile isEdge =
        (scheme.toList.dropWhile isEdge ++ ':' :: '/' :: '/' :: l.text.toList) ++ '@' :: rest.toList := by
      rw [hchars, dropWhile_append_cons (by decide)]
      simp
    have hsignificant (s : String) : significant s =
      ((s.toList.dropWhile isEdge).reverse.dropWhile isEdge).reverse.filter keeps := rfl
    rw [hsignificant, hfront, List.reverse_append, List.reverse_cons, List.append_assoc,
      List.singleton_append, dropWhile_append_cons (by decide)]
    simp [hkept, show keeps ':' = true by decide, show keeps '/' = true by decide,
      show keeps '@' = true by decide]

/-- A URL has a scheme or none, whatever follows the first colon. -/
theorem splitScheme_append {front : List Char} (hcolon : ':' ∉ front) :
    (∃ scheme, ∀ cs, splitScheme (front ++ ':' :: cs) = some (scheme, cs)) ∨
      ∀ cs, splitScheme (front ++ ':' :: cs) = none := by
  unfold splitScheme
  set isSchemeChar : Char → Bool := fun c => c.isAlphanum || c == '+' || c == '-' || c == '.'
  have hstop : isSchemeChar ':' = false := by decide
  simp only [dropWhile_append_cons hstop]
  cases hdrop : front.dropWhile isSchemeChar with
  | nil =>
    have htake (cs : List Char) : (front ++ ':' :: cs).takeWhile isSchemeChar = front := by
      rw [List.takeWhile_append_of_pos (List.dropWhile_eq_nil_iff.1 hdrop)]
      simp [hstop]
    simp only [htake]
    cases front with
    | nil => exact .inr fun _ => rfl
    | cons c name =>
      by_cases halpha : c.isAlpha
      · exact .inl ⟨(c :: name).map Char.toLower, fun cs => by simp [halpha]⟩
      · exact .inr fun cs => by simp [halpha]
  | cons d r =>
    have hd : d ≠ ':' := by
      rintro rfl
      exact hcolon ((List.dropWhile_suffix isSchemeChar).subset (by simp [hdrop]))
    right
    intro cs
    split
    next heq => exact absurd (List.cons.inj heq).1 hd
    next => rfl

/-- A login is split off together with what stands before the last at sign of the authority. -/
theorem exists_splitUserinfo (family : Family) (back : List Char) : ∃ after server : List Char,
    ∀ l : Login, splitUserinfo family (l.text.toList ++ '@' :: back) =
      some (l.text.toList ++ after, server) := by
  unfold splitUserinfo
  set ends : Char → Bool := (!family.endsAuthority ·)
  have hlogin (l : Login) : ∀ c ∈ l.text.toList, ends c := by
    intro c hc
    simp [ends, Login.endsAuthority_of_mem_text family hc]
  have hat : ends '@' = true := by cases family <;> decide
  let authority := back.takeWhile ends
  have hauthority (l : Login) :
      ((l.text.toList ++ '@' :: back).takeWhile ends).reverse =
        authority.reverse ++ '@' :: l.text.toList.reverse := by
    rw [List.takeWhile_append_of_pos (hlogin l)]
    simp [hat, authority]
  have hrest (l : Login) : (l.text.toList ++ '@' :: back).dropWhile ends = back.dropWhile ends := by
    rw [List.dropWhile_append_of_pos (hlogin l)]
    simp [hat]
  simp only [hauthority, hrest, takeWhile_append_cons (p := (· != '@')) (a := '@') rfl,
    dropWhile_append_cons (p := (· != '@')) (a := '@') rfl]
  let server := (authority.reverse.takeWhile (· != '@')).reverse ++ back.dropWhile ends
  cases authority.reverse.dropWhile (· != '@') with
  | nil => exact ⟨[], server, fun l => by simp [server]⟩
  | cons d before => exact ⟨'@' :: before.reverse, server, fun l => by simp [server]⟩

/-! ## Reading a URL -/

/-- What is read after a login. -/
def readAfterLogin (family : Family) (scheme cs : List Char) : Except Problem Url := do
  let (host, port, rest) ← readHost family cs
  if host = .empty then throw .emptyHost
  return addRest family (opening scheme [] host port) rest

/-- Where there is a login, nothing of the URL but user name and password depends on it. -/
theorem map_bare_readServer {info : List Char} (hinfo : credentials info ≠ ("", none)) (family : Family)
    (scheme cs : List Char) :
    (readServer family scheme info cs).map bare = readAfterLogin family scheme cs := by
  unfold readAfterLogin
  cases hread : readHost family cs with
  | error e => simp only [readServer, hread, bind, Except.bind, Except.map]
  | ok split =>
    obtain ⟨host, port, rest⟩ := split
    by_cases hhost : host = .empty
    · have hrefused : (credentials info).1 ≠ "" ∨ (credentials info).2.isSome := by
        simp only [Ne, Prod.ext_iff, Option.isSome_iff_ne_none] at hinfo ⊢
        grind
      simp [readServer, hread, hhost, hrefused, bind, Except.bind, Except.map, throw, throwThe,
        MonadExceptOf.throw]
    · have hok : readServer family scheme info cs =
          .ok (addRest family (opening scheme info host port) rest) :=
        readServer_eq_ok_iff.2 ⟨host, port, rest, hread, fun h => absurd h hhost, rfl⟩
      rw [hok]
      simp only [Except.map, bind, Except.bind, if_neg hhost, bare_addRest, bare_opening]
      rfl

theorem exists_readAuthority (family : Family) (scheme back : List Char) :
    ∃ answer, ∀ l : Login,
      (readAuthority family scheme (l.text.toList ++ '@' :: back)).map bare = answer := by
  obtain ⟨after, server, hsplit⟩ := exists_splitUserinfo family back
  refine ⟨readAfterLogin family scheme server, fun l => ?_⟩
  have hserver : readAuthority family scheme (l.text.toList ++ '@' :: back) =
      readServer family scheme (l.text.toList ++ after) server := by
    obtain ⟨c, -, r, hc⟩ := l.exists_cons
    simp only [readAuthority, hsplit]
    rw [hc, List.cons_append]
  rw [hserver, map_bare_readServer (l.credentials_ne_none after)]

theorem isDrive_of_mem_at {cs : List Char} (h : '@' ∈ cs) : Path.isDrive cs = false := by
  unfold Path.isDrive
  split
  next c d =>
    obtain rfl | rfl : '@' = c ∨ '@' = d := by simpa using h
    · rfl
    · simp
  next => rfl

/-- The host of a file has no login. -/
theorem readFile_login (scheme back : List Char) (l : Login) :
    readFile scheme ('/' :: '/' :: (l.text.toList ++ '@' :: back)) = .error .invalidDomain := by
  let ends (c : Char) : Bool := !Family.file.endsAuthority c
  have hlogin : ∀ c ∈ l.text.toList, ends c := by
    intro c hc
    simp [ends, Login.endsAuthority_of_mem_text .file hc]
  have hhost : (l.text.toList ++ '@' :: back).takeWhile ends =
      l.text.toList ++ '@' :: back.takeWhile ends := by
    rw [List.takeWhile_append_of_pos hlogin]
    rfl
  have hmem : '@' ∈ l.text.toList ++ '@' :: back.takeWhile ends := by simp
  have hparse : Host.parse (l.text.toList ++ '@' :: back.takeWhile ends) = .error .invalidDomain := by
    refine Host.parse_of_mem Idna.banned_at ?_ hmem
    obtain ⟨c, hmem, r, hc⟩ := l.exists_cons
    obtain ⟨-, -, -, -, hbracket, -⟩ := Login.plain_of_mem_text hmem
    simpa [hc] using hbracket
  unfold readFile
  dsimp only
  rw [if_pos (by decide), show List.takeWhile _ _ = _ from hhost, if_neg, hparse]
  · rfl
  · simp [isDrive_of_mem_at hmem]

/-- **Nothing but user name and password** depends on the login, not even whether the URL is read. -/
theorem parse_login_alike (scheme rest : String) (hcolon : ':' ∉ scheme.toList) :
    ∃ answer, ∀ l : Login, (parse (l.urlText scheme rest)).map bare = answer := by
  obtain ⟨front, back, hfront, hsignificant⟩ := exists_significant scheme rest
  unfold parse
  simp only [hsignificant]
  rcases splitScheme_append fun h => hcolon (hfront h) with ⟨scheme, hs⟩ | hs
  · cases hf : Family.ofScheme scheme with
    | file =>
      refine ⟨.error .invalidDomain, fun l => ?_⟩
      simp only [read, hs, hf, readFile_login]
      rfl
    | network =>
      obtain ⟨answer, hanswer⟩ := exists_readAuthority .network scheme back
      refine ⟨answer, fun l => ?_⟩
      have hslashes : ('/' :: '/' :: (l.text.toList ++ '@' :: back)).dropWhile Family.network.isSlash =
          l.text.toList ++ '@' :: back := by
        obtain ⟨c, hmem, r, hc⟩ := l.exists_cons
        obtain ⟨hslash, hbackslash, -⟩ := Login.plain_of_mem_text hmem
        simp [hc, Family.isSlash, hslash, hbackslash]
      simp only [read, hs, hf, hslashes]
      exact hanswer l
    | other =>
      obtain ⟨answer, hanswer⟩ := exists_readAuthority .other scheme back
      refine ⟨answer, fun l => ?_⟩
      simp only [read, hs, hf]
      exact hanswer l
  · refine ⟨.error .noScheme, fun l => ?_⟩
    simp only [read, hs]
    rfl

end ObjectVolume.Url
