import ObjectVolume.Proofs.Url.Ipv6
import ObjectVolume.Proofs.Url.Userinfo
/-!
# Hosts and ports in URLs

The host of a URL is written without delimiters, whatever it is read from (`written_of_parse`). A URL
spells out a port if what follows the last at sign of its authority ends with a colon and digits, outside
brackets (`SpellsPort`). If the URL is read at all, it is read with that port, which it keeps unless it is
the default one of its scheme (`port_of_parse`), and no URL has another port (`spellsPort_of_port`).
-/
namespace ObjectVolume.Url

/-! ## Spelling out a port -/

/-- What comes after the slashes, with the family of the scheme, if the URL has an authority. -/
def authority? (cs : List Char) : Option (Family × List Char) := do
  let (scheme, rest) ← splitScheme cs
  match Family.ofScheme scheme, rest with
  | .network, rest => some (.network, rest.dropWhile Family.network.isSlash)
  | family, a :: b :: r => if family.isSlash a ∧ family.isSlash b then some (family, r) else none
  | _, _ => none

/-- The character ends a port, even where a backslash is no slash. -/
def endsPort (c : Char) : Bool :=
  c == '/' || c == '\\' || endsPath c

/-- Host and port of the authority at `cs`: what follows its last at sign. -/
def serverText (family : Family) (cs : List Char) : List Char :=
  (afterUserinfo family cs).takeWhile (!endsPort ·)

/-- A text ends with a colon and the digits of `n`. A colon in brackets is not meant. -/
inductive EndsWithPort (n : Nat) : List Char → Prop
  | intro {host digits : List Char} (outside : host.head? = some '[' → host.getLast? = some ']')
      (given : digits ≠ []) (numerals : ∀ c ∈ digits, c.isDigit = true)
      (value : Nat.ofDigitChars 10 digits 0 = n) : EndsWithPort n (host ++ ':' :: digits)

/-- The URL spells out port `n`. -/
def SpellsPort (s : String) (n : Nat) : Prop :=
  ∃ family cs, authority? (significant s) = some (family, cs) ∧
    EndsWithPort n (serverText family cs)

variable {family : Family} {scheme info cs : List Char} {u : Url} {n : Nat}

/-! ## Reading a port -/

theorem endsPort_eq (family : Family) (c : Char) :
    endsPort c = (family.endsAuthority c || c == '\\') := by
  simp only [endsPort, endsPath, Family.endsAuthority, Family.isSlash]
  grind

theorem endsPort_of_isDigit {c : Char} (h : c.isDigit = true) : endsPort c = false := by
  by_contra hend
  have hchar : c = '/' ∨ c = '\\' ∨ c = '?' ∨ c = '#' := by
    rw [Bool.not_eq_false] at hend
    simpa [endsPort, endsPath, or_assoc] using hend
  obtain rfl | rfl | rfl | rfl := hchar <;> exact absurd h (by decide)

/-- Where a port ends, no digit stands. -/
theorem takeWhile_isDigit_dropWhile (cs : List Char) :
    (cs.dropWhile (!endsPort ·)).takeWhile Char.isDigit = [] := by
  have hhead := List.head?_dropWhile_not (!endsPort ·) cs
  cases h : cs.dropWhile (!endsPort ·) with
  | nil => rfl
  | cons c r =>
    rw [h] at hhead
    refine List.takeWhile_cons_of_neg fun hdigit => ?_
    simp [endsPort_of_isDigit hdigit] at hhead

/-- Where the first character that is no digit ends a port, only digits stand before. -/
theorem takeWhile_not_endsPort (h : ∀ c, cs.find? (!Char.isDigit ·) = some c → endsPort c = true) :
    cs.takeWhile (!endsPort ·) = cs.takeWhile Char.isDigit := by
  induction cs with
  | nil => rfl
  | cons c cs ih =>
    by_cases hdigit : c.isDigit
    · have hgoes : (!endsPort c) = true := by simp [endsPort_of_isDigit hdigit]
      rw [List.takeWhile_cons_of_pos hdigit,
        List.takeWhile_cons_of_pos (p := (!endsPort ·)) hgoes,
        ih fun d hd => h d (by rw [List.find?_cons_of_neg (by simp [hdigit]), hd])]
    · have hend := h c (List.find?_cons_of_pos (by simp [hdigit]))
      rw [List.takeWhile_cons_of_neg hdigit, List.takeWhile_cons_of_neg (by simp [hend])]

/-- A port is as many digits as there are, and then its end. -/
theorem of_readPort {value port : Option Nat} {rest : List Char}
    (h : readPort value cs = .ok (port, rest)) :
    (∀ c, cs.find? (!Char.isDigit ·) = some c → endsPort c = true) ∧
      port = if cs.takeWhile Char.isDigit = [] then value
        else some (Nat.ofDigitChars 10 (cs.takeWhile Char.isDigit) (value.getD 0)) := by
  induction cs generalizing value with
  | nil =>
    cases h
    exact ⟨fun c hc => (by cases hc), rfl⟩
  | cons c cs ih =>
    unfold readPort at h
    by_cases hdigit : c.isDigit
    · rw [if_pos hdigit] at h
      dsimp only at h
      split at h
      · cases h
      · obtain ⟨hend, hport⟩ := ih h
        rw [List.find?_cons_of_neg (by simp [hdigit]), List.takeWhile_cons_of_pos hdigit]
        refine ⟨hend, ?_⟩
        rw [hport, if_neg (List.cons_ne_nil _ _), Nat.ofDigitChars_cons, Nat.mul_comm 10]
        split
        next hnone => rw [hnone, Nat.ofDigitChars_nil]
        next => rfl
    · rw [if_neg hdigit] at h
      split at h
      next hend =>
        cases h
        rw [List.find?_cons_of_pos (by simp [hdigit]), List.takeWhile_cons_of_neg hdigit]
        exact ⟨fun d hd => Option.some.inj hd ▸ hend, rfl⟩
      next => cases h

/-- No port goes past a colon. -/
theorem readPort_ne_ok {front : List Char} (hfront : ∀ c ∈ front, endsPort c = false) (rest : List Char)
    (answer : Option Nat × List Char) : readPort none (front ++ ':' :: rest) ≠ .ok answer := by
  intro h
  obtain ⟨c, hc⟩ : ∃ c, (front ++ [':']).find? (!Char.isDigit ·) = some c :=
    Option.isSome_iff_exists.1 (List.find?_isSome.2 ⟨':', by simp, by decide⟩)
  have hend : endsPort c = true := by
    refine (of_readPort h).1 c ?_
    rw [List.append_cons, List.find?_append, hc]
    rfl
  have hgoes : endsPort c = false := by
    rcases List.mem_append.1 (List.mem_of_find?_eq_some hc) with hmem | hmem
    · exact hfront c hmem
    · rw [List.mem_singleton.1 hmem]
      decide
  rw [hgoes] at hend
  cases hend

/-! ## The end of a host -/

/-- Whether a bracket is open after `cs`. -/
def bracketAfter (bracket : Bool) (cs : List Char) : Bool :=
  cs.foldl (fun b c => if c = '[' then true else if c = ']' then false else b) bracket

theorem bracketAfter_of_getLast? (bracket : Bool) (h : cs.getLast? = some ']') :
    bracketAfter bracket cs = false := by
  obtain ⟨front, rfl⟩ := List.getLast?_eq_some_iff.1 h
  simp [bracketAfter]

/-- What is split off are characters that do not end the authority. -/
theorem Host.of_span (family : Family) (bracket : Bool) (cs : List Char) :
    cs = (Host.span family bracket cs).1 ++ (Host.span family bracket cs).2 ∧
      ∀ c ∈ (Host.span family bracket cs).1, family.endsAuthority c = false := by
  induction cs generalizing bracket with
  | nil => exact ⟨rfl, fun c hc => by cases hc⟩
  | cons c cs ih =>
    unfold Host.span
    split
    · exact ⟨rfl, fun c hc => by cases hc⟩
    next hgoes =>
      obtain ⟨hcs, hall⟩ := ih (if c = '[' then true else if c = ']' then false else bracket)
      refine ⟨congrArg (c :: ·) hcs, fun d hd => ?_⟩
      rcases List.mem_cons.1 hd with rfl | hd
      · simpa using mt (fun h => Bool.or_eq_true_iff.2 (.inr h)) hgoes
      · exact hall d hd

/-- A host ends at a colon in `cs`, or it is all of `cs` and goes on. -/
theorem Host.span_append (bracket : Bool) (h : ∀ c ∈ cs, family.endsAuthority c = false)
    (rest : List Char) :
    (∃ front back, cs = front ++ ':' :: back ∧
        Host.span family bracket (cs ++ rest) = (front, ':' :: back ++ rest)) ∨
      Host.span family bracket (cs ++ rest) =
        (Host.span family (bracketAfter bracket cs) rest).map (cs ++ ·) id := by
  induction cs generalizing bracket with
  | nil => exact .inr rfl
  | cons c cs ih =>
    have hc := h c List.mem_cons_self
    have hcs := fun d hd => h d (List.mem_cons_of_mem c hd)
    by_cases hcolon : (c == ':' && !bracket) = true
    · have hc' : c = ':' := by
        simp only [Bool.and_eq_true, beq_iff_eq] at hcolon
        exact hcolon.1
      subst hc'
      refine .inl ⟨[], cs, rfl, ?_⟩
      rw [List.cons_append, Host.span, if_pos (Bool.or_eq_true_iff.2 (.inl hcolon))]
    · rw [List.cons_append, Host.span, if_neg (by simpa [hc] using hcolon)]
      rcases ih _ hcs with ⟨front, back, rfl, hspan⟩ | hspan
      · exact .inl ⟨c :: front, back, rfl, by rw [hspan]⟩
      · exact .inr (by rw [hspan]; rfl)

theorem Host.parseOther_of_mem {c : Char} (hc : isForbidden c = true) (hbracket : cs.head? ≠ some '[')
    (h : c ∈ cs) : parseOther cs = .error .invalidDomainCharacter := by
  have hne : cs.isEmpty = false := by
    cases cs
    · cases h
    · rfl
  have hany : cs.any isForbidden = true := List.any_eq_true.2 ⟨c, h, hc⟩
  simp [parseOther, bracketed?_eq_none hbracket, hne, hany]

/-- A host is read up to its end, and a port if that is a colon. -/
theorem of_readHost {host : Host} {port : Option Nat} {rest : List Char}
    (h : readHost family cs = .ok (host, port, rest)) :
    Host.ofText family (Host.span family false cs).1 = .ok host ∧
      (∀ r, (Host.span family false cs).2 = ':' :: r → readPort none r = .ok (port, rest)) ∧
      ((∀ r, (Host.span family false cs).2 ≠ ':' :: r) → port = none) := by
  unfold readHost at h
  generalize Host.span family false cs = span at h ⊢
  obtain ⟨text, after⟩ := span
  dsimp only at h ⊢
  cases hhost : Host.ofText family text with
  | error e => simp [hhost, bind, Except.bind] at h
  | ok host' =>
    simp only [hhost, bind, Except.bind] at h
    split at h
    next r =>
      cases hport : readPort none r with
      | error e => split at h <;> simp [hport, throw, throwThe, MonadExceptOf.throw] at h
      | ok split =>
        split at h
        · cases h
        · rw [hport] at h
          cases h
          exact ⟨rfl, fun r' e => (List.cons.inj e).2 ▸ hport, fun hnone => absurd rfl (hnone r)⟩
    next hnone =>
      cases h
      exact ⟨rfl, fun r e => absurd e (hnone r), fun _ => rfl⟩

theorem Host.of_ofText {host : Host} (h : ofText family cs = .ok host) :
    parse cs = .ok host ∨ parseOther cs = .ok host := by
  unfold ofText at h
  split at h
  · split at h
    · cases h
    · exact .inl h
  · exact .inr h

theorem Host.written {host : Host} (h : parse cs = .ok host ∨ parseOther cs = .ok host) :
    Written host.text.toList :=
  h.elim written_of_parse written_of_parseOther

/-- A host that starts with a bracket is an IPv6 address. -/
theorem Host.exists_address {host : Host} (h : parse cs = .ok host ∨ parseOther cs = .ok host)
    (hbracket : cs.head? = some '[') :
    ∃ address, cs = '[' :: address ++ [']'] ∧ (Ipv6.parse address).isSome := by
  obtain ⟨r, rfl⟩ := List.head?_eq_some_iff.1 hbracket
  have hanswer : bracketed? ('[' :: r) = some (.ok host) := by
    rcases h with h | h
    · simpa [parse, bracketed?] using h
    · simpa [parseOther, bracketed?] using h
  unfold bracketed? at hanswer
  split at hanswer
  next r' heq =>
    obtain rfl := (List.cons.inj heq).2
    split at hanswer
    next hlast =>
      split at hanswer
      next gs hparse =>
        obtain ⟨address, rfl⟩ := List.getLast?_eq_some_iff.1 hlast
        rw [List.dropLast_concat] at hparse
        exact ⟨address, rfl, by rw [hparse]; rfl⟩
      next => cases hanswer
    next => cases hanswer
  next hne => exact absurd rfl (hne r)

/-- A host with a colon starts with a bracket. -/
theorem Host.head?_of_colon {host : Host} (h : parse cs = .ok host ∨ parseOther cs = .ok host)
    (hcolon : ':' ∈ cs) : cs.head? = some '[' := by
  by_contra hbracket
  rcases h with h | h
  · rw [parse_of_mem Idna.banned_colon hbracket hcolon] at h
    cases h
  · rw [parseOther_of_mem (by decide) hbracket hcolon] at h
    cases h

theorem Host.getLast?_of_bracket {host : Host} (h : parse cs = .ok host ∨ parseOther cs = .ok host)
    (hbracket : cs.head? = some '[') : cs.getLast? = some ']' := by
  obtain ⟨address, rfl, -⟩ := exists_address h hbracket
  rw [List.getLast?_concat]

/-- Where a backslash is no slash, there is none in a host either. -/
theorem Host.backslash_not_mem {host : Host} (h : parseOther cs = .ok host) : '\\' ∉ cs := by
  intro hmem
  by_cases hbracket : cs.head? = some '['
  · obtain ⟨address, rfl, hparse⟩ := exists_address (.inr h) hbracket
    have hmem : '\\' ∈ address := by simpa using hmem
    rw [Ipv6.parse_eq_none (by decide) (by decide) (by decide) hmem] at hparse
    cases hparse
  · rw [parseOther_of_mem (by decide) hbracket hmem] at h
    cases h

/-- A port that is spelled out is read. -/
theorem port_of_readHost {host : Host} {port : Option Nat} {rest : List Char}
    (h : readHost family cs = .ok (host, port, rest))
    (hspelled : EndsWithPort n (cs.takeWhile (!endsPort ·))) : port = some n := by
  obtain ⟨htext, hport, -⟩ := of_readHost h
  generalize hserver : cs.takeWhile (!endsPort ·) = server at hspelled
  obtain ⟨outside, given, numerals, value⟩ := hspelled
  next before digits =>
  set tail := cs.dropWhile (!endsPort ·) with htail
  have hcs : cs = before ++ ':' :: (digits ++ tail) := by
    rw [← List.takeWhile_append_dropWhile (p := (!endsPort ·)) (l := cs), hserver, htail]
    simp
  have hall : ∀ c ∈ before ++ ':' :: digits, endsPort c = false := by
    intro c hc
    have := List.mem_takeWhile_imp (p := (!endsPort ·)) (hserver ▸ hc)
    simpa using this
  have hbefore : ∀ c ∈ before, family.endsAuthority c = false := by
    intro c hc
    have hends := hall c (List.mem_append_left _ hc)
    rw [endsPort_eq family, Bool.or_eq_false_iff] at hends
    exact hends.1
  rw [hcs] at htext hport
  rcases Host.span_append false hbefore (':' :: (digits ++ tail)) with
    ⟨front, back, rfl, hspan⟩ | hspan
  · -- What is read as a port would have the colon of the port in it.
    have hback : ∀ c ∈ back, endsPort c = false := fun c hc => hall c (by simp [hc])
    exact absurd (hport (back ++ ':' :: (digits ++ tail)) (by rw [hspan]; rfl))
      (readPort_ne_ok hback _ _)
  cases hbracket : bracketAfter false before with
  | false =>
    rw [hbracket] at hspan
    obtain ⟨-, hvalue⟩ := of_readPort (hport (digits ++ tail) (by rw [hspan]; simp [Host.span]))
    have hdigits : (digits ++ tail).takeWhile Char.isDigit = digits := by
      rw [List.takeWhile_append_of_pos numerals, takeWhile_isDigit_dropWhile, List.append_nil]
    rw [hvalue, hdigits, if_neg given, ← value]
    rfl
  | true =>
    -- The host would hold the colon, and would have to be in brackets.
    have hcolon : ':' ∈ (Host.span family false (before ++ ':' :: (digits ++ tail))).1 := by
      have hopen : family.endsAuthority ':' = false := by cases family <;> decide
      rw [hspan, hbracket]
      simp [Host.span, hopen]
    have hhead := Host.head?_of_colon (Host.of_ofText htext) hcolon
    cases before with
    | nil => cases hbracket
    | cons c before =>
      rw [hspan] at hhead
      rw [bracketAfter_of_getLast? false (outside hhead)] at hbracket
      cases hbracket

/-- A port that is read is spelled out. -/
theorem endsWithPort_of_readHost {host : Host} {rest : List Char}
    (h : readHost family cs = .ok (host, some n, rest)) :
    EndsWithPort n (cs.takeWhile (!endsPort ·)) := by
  obtain ⟨htext, hport, hnone⟩ := of_readHost h
  obtain ⟨hcs, hgoes⟩ := Host.of_span family false cs
  generalize Host.span family false cs = span at *
  obtain ⟨text, after⟩ := span
  dsimp only at *
  obtain ⟨r, rfl⟩ : ∃ r, after = ':' :: r := by
    by_contra hcolon
    have := hnone fun r e => hcolon ⟨r, e⟩
    cases this
  obtain ⟨hend, hvalue⟩ := of_readPort (hport r rfl)
  have hbackslash : '\\' ∉ text := by
    intro hmem
    have hends := hgoes _ hmem
    cases family with
    | other => exact Host.backslash_not_mem htext hmem
    | _ => cases hends
  have hall : ∀ c ∈ text, endsPort c = false := by
    intro c hc
    rw [endsPort_eq family, hgoes c hc, Bool.false_or, beq_eq_false_iff_ne]
    rintro rfl
    exact hbackslash hc
  have htake : cs.takeWhile (!endsPort ·) = text ++ ':' :: r.takeWhile Char.isDigit := by
    rw [hcs, List.takeWhile_append_of_pos (by simpa using hall)]
    rw [List.takeWhile_cons_of_pos (by decide), takeWhile_not_endsPort hend]
  split at hvalue
  next => cases hvalue
  next given =>
    rw [htake]
    exact .intro (Host.getLast?_of_bracket (Host.of_ofText htext)) given
      (fun c hc => List.mem_takeWhile_imp hc) (Option.some.inj hvalue).symm

/-! ## Whole URLs -/

/-- A port that is spelled out is the port of the URL, but for the default one of its scheme. -/
theorem port_of_readAuthority (h : readAuthority family scheme cs = .ok u)
    (hspelled : EndsWithPort n (serverText family cs)) :
    u.port = if some n = defaultPort u.scheme.toList then none else some n := by
  obtain ⟨info, h⟩ := of_readAuthority h
  obtain ⟨host, port, rest, hread, -, rfl⟩ := readServer_eq_ok_iff.1 h
  obtain ⟨path, query, fragment, hkeeps⟩ := addRest_keeps family (opening scheme info host port) rest
  rw [hkeeps, port_of_readHost hread hspelled]
  simp [opening]

theorem endsWithPort_of_readAuthority (h : readAuthority family scheme cs = .ok u)
    (hport : u.port = some n) : EndsWithPort n (serverText family cs) := by
  obtain ⟨info, h⟩ := of_readAuthority h
  obtain ⟨host, port, rest, hread, -, rfl⟩ := readServer_eq_ok_iff.1 h
  obtain ⟨path, query, fragment, hkeeps⟩ := addRest_keeps family (opening scheme info host port) rest
  rw [hkeeps] at hport
  unfold opening at hport
  dsimp only at hport
  split at hport
  · cases hport
  · rw [hport] at hread
    exact endsWithPort_of_readHost hread

/-- A file has no port. Its host is left out, or read from between two slashes and the next one. -/
theorem of_readFile (h : readFile scheme cs = .ok u) : u.port = none ∧ (u.host = some .empty ∨
    ∃ a b r host, cs = a :: b :: r ∧ Host.parse (r.takeWhile (!Family.file.endsAuthority ·)) = .ok host ∧
      u.host = some host) := by
  let start : Url := { scheme := String.ofList scheme, host := some .empty, path := .segments [] }
  have of_path {v : Url} {r : List Char}
      (h : Except.ok (addPath .file v r) = (.ok u : Except Problem Url)) :
      u.port = v.port ∧ u.host = v.host := by
    obtain ⟨path, query, fragment, hkeeps⟩ := addPath_keeps .file v r
    rw [← Except.ok.inj h, hkeeps]
    exact ⟨rfl, rfl⟩
  have of_start {r : List Char} (h : Except.ok (addPath .file start r) = .ok u) :
      u.port = none ∧ u.host = some .empty := of_path h
  unfold readFile at h
  dsimp only at h
  split at h
  case h_2 => exact (of_start h).imp_right .inl
  case h_1 a b r =>
  split at h
  case isFalse => exact (of_start h).imp_right .inl
  case isTrue =>
  split at h
  case isTrue => exact (of_start h).imp_right .inl
  case isFalse =>
  cases hhost : Host.parse (r.takeWhile (!Family.file.endsAuthority ·)) with
  | error e => simp [hhost, bind, Except.bind] at h
  | ok host =>
    simp only [hhost, bind, Except.bind] at h
    split at h
    · exact (of_start h).imp_right .inl
    split at h
    · exact (of_start h).imp_right .inl
    · obtain ⟨hport, hread⟩ := of_path h
      exact ⟨hport, .inr ⟨a, b, r, host, rfl, hhost, hread⟩⟩

theorem serverText_suffix : serverText .file cs <:+ cs.takeWhile (!Family.file.endsAuthority ·) := by
  have hends (c : Char) : endsPort c = Family.file.endsAuthority c := by
    rw [endsPort_eq .file]
    by_cases hc : c = '\\'
    · rw [hc]
      rfl
    · rw [beq_eq_false_iff_ne.2 hc, Bool.or_false]
  simp only [serverText, hends]
  exact takeWhile_afterUserinfo_suffix .file cs

/-- What is read as a host does not end with a port. -/
theorem not_endsWithPort_of_parse {host : Host} (h : Host.parse cs = .ok host) {server : List Char}
    (hserver : server <:+ cs) : ¬EndsWithPort n server := by
  rintro ⟨-, given, numerals, -⟩
  next before digits =>
  obtain ⟨front, rfl⟩ := hserver
  have hlast := Host.getLast?_of_bracket (.inl h) (Host.head?_of_colon (.inl h) (by simp))
  rw [← List.append_assoc, List.append_cons, List.getLast?_append,
    List.getLast?_eq_some_getLast given, Option.some_or, Option.some.injEq] at hlast
  exact absurd (numerals _ (List.getLast_mem given)) (hlast ▸ by decide)

/-- **Hosts of URLs** are written without delimiters. -/
theorem written_of_parse {s : String} {host : Host} (h : parse s = .ok u) (hhost : u.host = some host) :
    Host.Written host.text.toList := by
  have of_authority {family : Family} {scheme cs : List Char}
      (h : readAuthority family scheme cs = .ok u) : Host.Written host.text.toList := by
    obtain ⟨info, h⟩ := of_readAuthority h
    obtain ⟨host', port, rest, hread, -, rfl⟩ := readServer_eq_ok_iff.1 h
    obtain ⟨path, query, fragment, hkeeps⟩ := addRest_keeps family (opening scheme info host' port) rest
    rw [hkeeps] at hhost
    cases hhost
    exact Host.written (Host.of_ofText (of_readHost hread).1)
  obtain ⟨scheme, rest, -, h⟩ := of_read h
  split at h
  case h_1 =>
    obtain ⟨-, hempty | ⟨a, b, r, host', -, hparse, hread⟩⟩ := of_readFile h
    · rw [hempty] at hhost
      cases hhost
      exact .plain (by simp [Host.text])
    · rw [hread] at hhost
      cases hhost
      exact Host.written_of_parse hparse
  case h_2 => exact of_authority h
  case h_3 =>
    obtain ⟨r, -, h⟩ | ⟨-, -, hnone, -⟩ := h
    · exact of_authority h
    · rw [hnone] at hhost
      cases hhost

/-- **A port that is spelled out** is the port of the URL, unless it is the default one of its scheme. -/
theorem port_of_parse {s : String} (h : parse s = .ok u) (hhost : u.hostText?.isSome)
    (hspelled : SpellsPort s n) :
    u.port = if some n = defaultPort u.scheme.toList then none else some n := by
  obtain ⟨family, cs, hauthority, hserver⟩ := hspelled
  obtain ⟨scheme, rest, hscheme, h⟩ := of_read h
  simp only [authority?, hscheme, Option.bind_eq_bind, Option.bind_some] at hauthority
  split at h
  case h_1 hf =>
    obtain ⟨-, hempty | ⟨a, b, r, host, rfl, hparse, -⟩⟩ := of_readFile h
    · simp [hostText?, hempty] at hhost
    · simp only [hf, Option.ite_none_right_eq_some, Option.some.injEq, Prod.mk.injEq] at hauthority
      obtain ⟨-, rfl, rfl⟩ := hauthority
      exact absurd hserver (not_endsWithPort_of_parse hparse serverText_suffix)
  case h_2 hf =>
    simp only [hf] at hauthority
    cases hauthority
    exact port_of_readAuthority h hserver
  case h_3 hf =>
    obtain ⟨r, rfl, h⟩ | ⟨-, -, hnone, -⟩ := h
    · simp only [hf] at hauthority
      cases hauthority
      exact port_of_readAuthority h hserver
    · simp [hostText?, hnone] at hhost

/-- **A port of a URL** is spelled out. -/
theorem spellsPort_of_port {s : String} (h : parse s = .ok u) (hport : u.port = some n) :
    SpellsPort s n := by
  obtain ⟨scheme, rest, hscheme, h⟩ := of_read h
  split at h
  case h_1 =>
    rw [(of_readFile h).1] at hport
    cases hport
  case h_2 hf =>
    refine ⟨.network, _, ?_, endsWithPort_of_readAuthority h hport⟩
    simp only [authority?, hscheme, Option.bind_eq_bind, Option.bind_some, hf]
  case h_3 hf =>
    obtain ⟨r, rfl, h⟩ | ⟨-, -, -, hnone⟩ := h
    · refine ⟨.other, r, ?_, endsWithPort_of_readAuthority h hport⟩
      have hslash : Family.other.isSlash '/' = true := rfl
      simp only [authority?, hscheme, Option.bind_eq_bind, Option.bind_some, hf, hslash, and_self,
        if_true]
    · rw [hnone] at hport
      cases hport

end ObjectVolume.Url
