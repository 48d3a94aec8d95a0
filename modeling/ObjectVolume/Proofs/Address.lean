import ObjectVolume.Proofs.Client
import ObjectVolume.Proofs.Url.Server
/-!
# Addresses and endpoints

The text of an address, read by the generic syntax of URLs (`Parts.ofText`), names the host of the endpoint
and nothing else of it but the port. That port is lost where the endpoint spells out the default one of
its own scheme and the scheme of the address has another one: 443 after `wss` and 21 after `ftp`
(`Config.address_denotes`, `Config.ftp_port_lost`).
-/
namespace ObjectVolume

/-! ## Generic syntax -/

/-- What comes before the first `c`, and what after it if there is one. -/
def cut (c : Char) (cs : List Char) : List Char × Option (List Char) :=
  match cs.dropWhile (· != c) with
  | [] => (cs, none)
  | _ :: back => (cs.takeWhile (· != c), some back)

theorem cut_of_not_mem {c : Char} {cs : List Char} (h : c ∉ cs) : cut c cs = (cs, none) := by
  have hdrop : cs.dropWhile (· != c) = [] := by
    rw [List.dropWhile_eq_nil_iff]
    exact fun d hd => bne_iff_ne.2 fun e => h (e ▸ hd)
  simp only [cut, hdrop]

theorem cut_append_cons {c : Char} {front : List Char} (h : c ∉ front) (back : List Char) :
    cut c (front ++ c :: back) = (front, some back) := by
  have hfront : ∀ d ∈ front, (d != c) = true := fun d hd => bne_iff_ne.2 fun e => h (e ▸ hd)
  simp [cut, List.dropWhile_append_of_pos hfront, List.takeWhile_append_of_pos hfront]

/-- The parts of a URL. Of those that may be left out, the character in front of them says that they are
there. -/
structure Parts where
  scheme : List Char
  userinfo : Option (List Char)
  host : List Char
  port : Option (List Char)
  path : Option (List Char)
  query : Option (List Char)
  fragment : Option (List Char)
  deriving DecidableEq

namespace Parts

/-- Host and port. Colons in brackets belong to the host. -/
def splitServer : List Char → List Char × Option (List Char)
  | '[' :: r =>
    let (address, after) := cut ']' r
    ('[' :: address ++ [']'], (cut ':' (after.getD [])).2)
  | cs => cut ':' cs

/-- The parts of a URL with an authority. -/
def ofText (s : String) : Option Parts :=
  let (front, fragment) := cut '#' s.toList
  let (front, query) := cut '?' front
  match cut ':' front with
  | (scheme, some ('/' :: '/' :: rest)) =>
    let (authority, path) := cut '/' rest
    let (userinfo, server) := match cut '@' authority with
      | (info, some server) => (some info, server)
      | (server, none) => (none, server)
    let (host, port) := splitServer server
    some { scheme, userinfo, host, port, path, query, fragment }
  | _ => none

/-- The port that is meant: the one that is there, or else the default one of the scheme. -/
def portNumber (p : Parts) : Option Nat :=
  match p.port.getD [] with
  | [] => match String.ofList p.scheme with
    | "http" => some 80
    | "https" => some 443
    | _ => none
  | digits => if digits.all Char.isDigit then some (Nat.ofDigitChars 10 digits 0) else none

/-! ## Texts of addresses -/

/-- A port as it is written after a host. -/
def portSuffix (port : Option (List Char)) : List Char :=
  (port.map (':' :: ·)).getD []

variable {host : List Char} {port : Option (List Char)}

theorem cut_portSuffix (h : ':' ∉ host) (port : Option (List Char)) :
    cut ':' (host ++ portSuffix port) = (host, port) := by
  cases port with
  | none => rw [portSuffix, Option.map_none, Option.getD_none, List.append_nil, cut_of_not_mem h]
  | some digits => exact cut_append_cons h digits

/-- A written host is told apart from the port after it. -/
theorem splitServer_written (h : Url.Host.Written host) (port : Option (List Char)) :
    splitServer (host ++ portSuffix port) = (host, port) := by
  cases h with
  | plain hnone =>
    have hcolon : ':' ∉ host := fun hc => hnone _ hc List.mem_cons_self
    unfold splitServer
    split
    next r heq =>
      -- A bracket in front is one of the host.
      cases host with
      | nil => cases port <;> cases heq
      | cons c host =>
        have hc : c = '[' := (List.cons.inj heq).1
        exact absurd (by decide : '[' ∈ ':' :: Url.delimiters) (hc ▸ hnone c List.mem_cons_self)
    next => exact cut_portSuffix hcolon port
  | @bracketed address hnone =>
    have hbracket : ']' ∉ address := fun hc => hnone _ hc (by decide)
    have hcut := cut_append_cons hbracket (portSuffix port)
    have hport : (cut ':' (portSuffix port)).2 = port :=
      congrArg Prod.snd (cut_portSuffix List.not_mem_nil port)
    simp [splitServer, hcut, hport]

/-- No other delimiters than brackets and the colon are in a host with its port. -/
theorem not_mem_server (hhost : Url.Host.Written host)
    (hport : ∀ digits ∈ port, ∀ c ∈ digits, c.isDigit = true) :
    ∀ c ∈ ['/', '?', '#', '@'], c ∉ host ++ portSuffix port := by
  intro c hc hmem
  obtain ⟨hdelimiter, hleft, hright, hcolon, hdigit⟩ :
      c ∈ Url.delimiters ∧ c ≠ '[' ∧ c ≠ ']' ∧ c ≠ ':' ∧ c.isDigit = false := by
    simp only [List.mem_cons, List.not_mem_nil, or_false] at hc
    obtain rfl | rfl | rfl | rfl := hc <;> decide
  rcases List.mem_append.1 hmem with hmem | hmem
  · cases hhost with
    | plain hnone => exact hnone c hmem (List.mem_cons_of_mem _ hdelimiter)
    | @bracketed address hnone =>
      have haddress : c ∈ address := by simpa [hleft, hright] using hmem
      exact hnone c haddress hdelimiter
  · cases port with
    | none => cases hmem
    | some digits =>
      have hmem := (List.mem_cons.1 hmem).resolve_left hcolon
      rw [hport digits rfl c hmem] at hdigit
      cases hdigit

/-- What is read of scheme, host and port, written one after the other. -/
theorem ofText_of_toList {s : String} {scheme : List Char}
    (hscheme : ∀ c ∈ scheme, c.isAlpha = true) (hhost : Url.Host.Written host)
    (hport : ∀ digits ∈ port, ∀ c ∈ digits, c.isDigit = true)
    (h : s.toList = scheme ++ ':' :: '/' :: '/' :: (host ++ portSuffix port)) :
    ofText s = some ⟨scheme, none, host, port, none, none, none⟩ := by
  have hserver := not_mem_server hhost hport
  have hletters (c : Char) (hc : c.isAlpha = false) : c ∉ scheme := by
    intro hmem
    rw [hscheme c hmem] at hc
    cases hc
  have hnone : ∀ c ∈ ['?', '#'], c ∉ s.toList := by
    intro c hc hmem
    obtain ⟨halpha, hcolon, hslash, hdelimiter⟩ :
        c.isAlpha = false ∧ c ≠ ':' ∧ c ≠ '/' ∧ c ∈ ['/', '?', '#', '@'] := by
      simp only [List.mem_cons, List.not_mem_nil, or_false] at hc
      obtain rfl | rfl := hc <;> decide
    rw [h, List.mem_append, List.mem_cons, List.mem_cons, List.mem_cons] at hmem
    obtain hmem | hmem | hmem | hmem | hmem := hmem
    · exact hletters c halpha hmem
    · exact hcolon hmem
    · exact hslash hmem
    · exact hslash hmem
    · exact hserver c hdelimiter hmem
  have hfront := cut_append_cons (hletters ':' (by decide)) ('/' :: '/' :: (host ++ portSuffix port))
  rw [← h] at hfront
  simp only [ofText, cut_of_not_mem (hnone '#' (by decide)), cut_of_not_mem (hnone '?' (by decide)),
    hfront, cut_of_not_mem (hserver '/' (by decide)), cut_of_not_mem (hserver '@' (by decide)),
    splitServer_written hhost port]

end Parts

/-! ## Endpoints -/

namespace Url

theorem defaultPort_eq_some_iff {scheme : String} {n : Nat} :
    some n = defaultPort scheme.toList ↔
      (scheme = "http" ∨ scheme = "ws") ∧ n = 80 ∨ (scheme = "https" ∨ scheme = "wss") ∧ n = 443 ∨
        scheme = "ftp" ∧ n = 21 := by
  unfold defaultPort
  rw [String.ofList_toList]
  split <;> simp_all

theorem hostText?_of_host {u : Url} {host : Host} (h : u.host = some host) (hne : host ≠ .empty) :
    u.hostText? = some host.text := by
  unfold hostText?
  rw [h]
  cases host with
  | empty => exact absurd rfl hne
  | _ => rfl

/-- The parts of the text of the address that a URL leads to. -/
def addressParts (u : Url) : Parts where
  scheme := (if u.scheme = "https" then "https" else "http").toList
  userinfo := none
  host := (u.hostText?.getD "").toList
  port := u.port.map (Nat.toDigits 10)
  path := none
  query := none
  fragment := none

variable {u : Url} {n : Nat}

theorem toList_portText (u : Url) : u.portText.toList = Parts.portSuffix u.addressParts.port := by
  unfold portText Parts.portSuffix addressParts
  cases u.port with
  | none => rfl
  | some n => simp [Nat.toString_eq_repr, Nat.repr]

theorem isDigit_of_mem_port : ∀ digits ∈ u.addressParts.port, ∀ c ∈ digits, c.isDigit = true := by
  intro digits hdigits c hc
  obtain ⟨n, -, rfl⟩ := Option.map_eq_some_iff.1 hdigits
  exact Nat.isDigit_of_mem_toDigits (by decide) (by decide) hc

theorem portNumber_addressParts (u : Url) :
    u.addressParts.portNumber = some (u.port.getD (if u.scheme = "https" then 443 else 80)) := by
  have hdigits := @isDigit_of_mem_port u
  unfold Parts.portNumber
  unfold addressParts at hdigits ⊢
  cases hport : u.port with
  | none => by_cases hs : u.scheme = "https" <;> simp [hs]
  | some n =>
    obtain ⟨c, cs, hcs⟩ := List.exists_cons_of_ne_nil (Nat.toDigits_ne_nil (b := 10) (n := n))
    have hall : (c :: cs).all Char.isDigit = true := by
      rw [← hcs, List.all_eq_true]
      exact hdigits _ (by rw [hport]; rfl)
    simp only [Option.map_some, Option.getD_some, hcs, if_pos hall]
    rw [← hcs, Nat.ofDigitChars_ten_toDigits]

/-- A port that is left out of the URL is meant all the same if it is the default one of the scheme of the
address, too. -/
theorem portNumber_eq_iff
    (hport : u.port = if some n = defaultPort u.scheme.toList then none else some n) :
    u.addressParts.portNumber = some n ↔
      ¬(u.scheme = "wss" ∧ n = 443 ∨ u.scheme = "ftp" ∧ n = 21) := by
  rw [portNumber_addressParts, hport, Option.some.injEq]
  by_cases hdefault : some n = defaultPort u.scheme.toList
  · rw [if_pos hdefault, Option.getD_none]
    obtain ⟨hs | hs, rfl⟩ | ⟨hs | hs, rfl⟩ | ⟨hs, rfl⟩ := defaultPort_eq_some_iff.1 hdefault <;>
      simp [hs]
  · rw [if_neg hdefault, Option.getD_some]
    have hothers := mt defaultPort_eq_some_iff.2 hdefault
    simp only [true_iff]
    rintro (⟨hs, rfl⟩ | ⟨hs, rfl⟩)
    · exact hothers (.inr (.inl ⟨.inr hs, rfl⟩))
    · exact hothers (.inr (.inr ⟨hs, rfl⟩))

end Url

namespace Config

variable {c : Config} {u : Url}

theorem ofText_address (h : c.url = .ok u) :
    ∃ a, c.address = .ok a ∧ Parts.ofText a.text = some u.addressParts := by
  obtain ⟨hparse, host, hhost, hne⟩ := of_url h
  have htext := Url.hostText?_of_host hhost hne
  let a : Address := ⟨u.scheme == "https", host.text ++ u.portText⟩
  have haddress : c.address = .ok a := by
    simp only [address, isSecure, Config.host, h, Except.map, htext]
    rfl
  have hscheme : ∀ c ∈ u.addressParts.scheme, c.isAlpha = true := by
    unfold Url.addressParts
    refine List.all_eq_true.1 ?_
    dsimp only
    split <;> decide
  have hhostText : u.addressParts.host = host.text.toList := by
    simp [Url.addressParts, htext]
  have hchars : a.text.toList = u.addressParts.scheme ++ ':' :: '/' :: '/' ::
      (u.addressParts.host ++ Parts.portSuffix u.addressParts.port) := by
    rw [hhostText, ← Url.toList_portText]
    by_cases hs : u.scheme = "https" <;> simp [a, Address.text, Url.addressParts, hs]
  have hwritten : Url.Host.Written u.addressParts.host := by
    rw [hhostText]
    exact Url.written_of_parse hparse hhost
  exact ⟨a, haddress, Parts.ofText_of_toList hscheme hwritten Url.isDigit_of_mem_port hchars⟩

/-- **The text of the address** names the host of the endpoint, over `https` exactly if that is the scheme of
the endpoint, and nothing else of it but the port, if it spells one out. Whatever port that is, it is the
one that is meant by the text, except for 443 after `wss` and 21 after `ftp`. -/
theorem address_denotes (h : c.url = .ok u) : ∃ a parts,
    c.address = .ok a ∧ Parts.ofText a.text = some parts ∧
    String.ofList parts.scheme = (if u.scheme = "https" then "https" else "http") ∧
    some (String.ofList parts.host) = u.hostText? ∧
    parts.userinfo = none ∧ parts.path = none ∧ parts.query = none ∧ parts.fragment = none ∧
    (∀ digits, parts.port = some digits →
      ∃ n, Url.SpellsPort c.endpoint n ∧ digits = Nat.toDigits 10 n) ∧
    ∀ n, Url.SpellsPort c.endpoint n →
      (parts.portNumber = some n ↔ ¬(u.scheme = "wss" ∧ n = 443 ∨ u.scheme = "ftp" ∧ n = 21)) := by
  obtain ⟨hparse, host, hhost, hne⟩ := of_url h
  have htext := Url.hostText?_of_host hhost hne
  obtain ⟨a, haddress, hparts⟩ := ofText_address h
  refine ⟨a, u.addressParts, haddress, hparts, String.ofList_toList, ?_, rfl, rfl, rfl, rfl,
    fun digits hdigits => ?_, fun n hspelled => ?_⟩
  · simp [Url.addressParts, htext]
  · obtain ⟨n, hport, rfl⟩ := Option.map_eq_some_iff.1 hdigits
    exact ⟨n, Url.spellsPort_of_port hparse hport, rfl⟩
  · exact Url.portNumber_eq_iff (Url.port_of_parse hparse (by simp [htext]) hspelled)

def websocket : Config where
  credentials := ⟨"AKIA1111", "s3cr3t", none⟩
  region := "eu"
  endpoint := "wss://ann:pw@[::1]:9000/some/path?q#f"

theorem address_denotes_websocket :
    (∃ u, websocket.url = .ok u ∧ u.scheme = "wss") ∧ Url.SpellsPort websocket.endpoint 9000 ∧
    ∃ a parts, websocket.address = .ok a ∧ Parts.ofText a.text = some parts ∧
      String.ofList parts.scheme = "http" ∧ String.ofList parts.host = "[::1]" ∧
      parts.userinfo = none ∧ parts.portNumber = some 9000 := by
  let u : Url := {
    scheme := "wss", username := "ann", password := some "pw"
    host := some (.ipv6 [0, 0, 0, 0, 0, 0, 0, 1]), port := some 9000
    path := .segments ["some", "path"], query := some "q", fragment := some "f" }
  have hurl : websocket.url = .ok u := by decide +kernel
  have hspelled : Url.SpellsPort websocket.endpoint 9000 := by
    refine ⟨.network, "ann:pw@[::1]:9000/some/path?q#f".toList, by decide +kernel, ?_⟩
    have hserver : Url.serverText .network "ann:pw@[::1]:9000/some/path?q#f".toList =
        "[::1]".toList ++ ':' :: "9000".toList := by decide +kernel
    rw [hserver]
    exact .intro (by decide) (by decide) (List.all_eq_true.1 (by decide)) (by decide)
  obtain ⟨a, parts, haddress, hparts, hscheme, hhost, huserinfo, -, -, -, -, hport⟩ :=
    address_denotes hurl
  refine ⟨⟨u, hurl, rfl⟩, hspelled, a, parts, haddress, hparts, hscheme, ?_, huserinfo, ?_⟩
  · have htext : u.hostText? = some "[::1]" := by decide
    exact Option.some.inj (hhost.trans htext)
  · exact (hport 9000 hspelled).2 (by decide)

def fileServer : Config where
  credentials := ⟨"AKIA1111", "s3cr3t", none⟩
  region := "eu"
  endpoint := "ftp://[::1]:21"

/-- The address of an endpoint with port 21 has none, so that port 80 is meant. -/
theorem ftp_port_lost :
    (∃ u, fileServer.url = .ok u) ∧ Url.SpellsPort fileServer.endpoint 21 ∧
    ∃ a parts, fileServer.address = .ok a ∧ a.text = "http://[::1]" ∧
      Parts.ofText a.text = some parts ∧ parts.portNumber = some 80 := by
  let u : Url := {
    scheme := "ftp", host := some (.ipv6 [0, 0, 0, 0, 0, 0, 0, 1]), path := .segments [""] }
  have hurl : fileServer.url = .ok u := by decide +kernel
  have hserver : Url.serverText .network "[::1]:21".toList = "[::1]".toList ++ ':' :: "21".toList := by
    decide +kernel
  refine ⟨⟨u, hurl⟩, ⟨.network, "[::1]:21".toList, by decide +kernel, ?_⟩, ⟨false, "[::1]"⟩,
    ⟨"http".toList, none, "[::1]".toList, none, none, none, none⟩, by decide +kernel, by decide,
    by decide +kernel, by decide⟩
  rw [hserver]
  exact .intro (by decide) (by decide) (List.all_eq_true.1 (by decide)) (by decide)

end Config

end ObjectVolume
