import ObjectVolume.Url.Basic
/-!
# Reading URLs

Blanks and controls around a URL and line breaks and tabs within it are dropped. What follows the
scheme depends on its family: networks have an authority whatever the number of slashes, other
schemes only after two of them.

| here | there |
| --- | --- |
| `Url.parse` | `Url.parse` of the `url` library |
| `readAuthority`, `readServer`, `readPort` | what it does after the scheme |
| `readFile` | what it does with the scheme `file` |
-/
namespace ObjectVolume.Url

/-- The characters of a URL that count. -/
def significant (s : String) : List Char :=
  let isEdge (c : Char) : Bool := c.toNat ≤ 0x20
  let trimmed := ((s.toList.dropWhile isEdge).reverse.dropWhile isEdge).reverse
  trimmed.filter fun c => c != '\t' && c != '\n' && c != '\r'

/-! ## The end of a URL -/

/-- A URL with the query and the fragment at the start of `cs` added. -/
def addQueryAndFragment (family : Family) (u : Url) (cs : List Char) : Url :=
  let escaped := if family.isWellKnown then inSpecialQuery else inQuery
  let fragment (cs : List Char) : Option String :=
    match cs with
    | '#' :: f => some (String.ofList (encode inFragment f))
    | _ => none
  match cs with
  | '?' :: r =>
    { u with
      query := some (String.ofList (encode escaped (r.takeWhile (· != '#'))))
      fragment := fragment (r.dropWhile (· != '#')) }
  | cs => { u with fragment := fragment cs }

def endsPath (c : Char) : Bool :=
  c == '?' || c == '#'

/-- A URL with the segments of `cs`, and the query and fragment after them, added. -/
def addPath (family : Family) (u : Url) (cs : List Char) : Url :=
  addQueryAndFragment family
    { u with path := .ofText family (cs.takeWhile (!endsPath ·)) } (cs.dropWhile (!endsPath ·))

/-- A URL with the path, query and fragment at `cs`, right after an authority, added. -/
def addRest (family : Family) (u : Url) (cs : List Char) : Url :=
  match cs with
  | c :: r =>
    if family.isSlash c then addPath family u r
    else if family.isWellKnown ∨ !endsPath c then addPath family u (c :: r)
    else addQueryAndFragment family u (c :: r)
  | [] => if family.isWellKnown then addPath family u [] else u

/-! ## Authorities -/

/-- The text before the last at sign of the authority at `cs`, and what follows it. -/
def splitUserinfo (family : Family) (cs : List Char) : Option (List Char × List Char) :=
  let authority := cs.takeWhile (!family.endsAuthority ·)
  let rest := cs.dropWhile (!family.endsAuthority ·)
  match authority.reverse.dropWhile (· != '@') with
  | _ :: before => some (before.reverse, (authority.reverse.takeWhile (· != '@')).reverse ++ rest)
  | [] => none

/-- User name and password; the first colon separates them, and an empty password is none. -/
def credentials (userinfo : List Char) : String × Option String :=
  let password := String.ofList ((userinfo.dropWhile (· != ':')).drop 1)
  (written (String.ofList (userinfo.takeWhile (· != ':'))),
    if password.isEmpty then none else some (written password))

/-- The port after a colon, up to the end of the authority. -/
def readPort (value : Option Nat) : List Char → Except Problem (Option Nat × List Char)
  | [] => .ok (value, [])
  | c :: r =>
    if c.isDigit then
      let value := value.getD 0 * 10 + (c.toNat - '0'.toNat)
      if value > 65535 then .error .invalidPort else readPort (some value) r
    else if c == '/' || c == '\\' || endsPath c then .ok (value, c :: r)
    else .error .invalidPort

/-- The host that is written as `cs`. -/
def Host.ofText (family : Family) (cs : List Char) : Except Problem Host :=
  if family = .network then
    if cs.isEmpty then .error .emptyHost else Host.parse cs
  else Host.parseOther cs

/-- Host and port at the start of `cs`. -/
def readHost (family : Family) (cs : List Char) :
    Except Problem (Host × Option Nat × List Char) := do
  let (host, rest) := Host.span family false cs
  let host ← Host.ofText family host
  match rest with
  | ':' :: r =>
    if host = .empty then throw .emptyHost
    let (port, rest) ← readPort none r
    return (host, port, rest)
  | rest => return (host, none, rest)

/-- The URL of an authority with `userinfo` in front of its host, which is at the start of `cs`. -/
def readServer (family : Family) (scheme userinfo cs : List Char) : Except Problem Url := do
  let (username, password) := credentials userinfo
  let (host, port, rest) ← readHost family cs
  if host = .empty ∧ (username ≠ "" ∨ password.isSome) then throw .emptyHost
  let u : Url := {
    scheme := String.ofList scheme, username, password, host := some host,
    port := if port = defaultPort scheme then none else port, path := .segments [] }
  return addRest family u rest

/-- A URL with an authority, which starts at `cs`. -/
def readAuthority (family : Family) (scheme cs : List Char) : Except Problem Url :=
  match splitUserinfo family cs with
  | none => readServer family scheme [] cs
  | some ([], c :: r) =>
    if family.endsAuthority c then throw .emptyHost else readServer family scheme [] (c :: r)
  | some (userinfo, rest) => readServer family scheme userinfo rest

/-! ## Files -/

/-- The path at `cs` names a drive, which belongs to no host. -/
def holdsDrive (cs : List Char) : Bool :=
  ((cs.takeWhile (!endsPath ·)).splitOnP Family.file.isSlash).any Path.isDrive

/-- A file URL, after its scheme. -/
def readFile (scheme cs : List Char) : Except Problem Url := do
  let u : Url := { scheme := String.ofList scheme, host := some .empty, path := .segments [] }
  let family := Family.file
  match cs with
  | a :: b :: r =>
    if family.isSlash a ∧ family.isSlash b then
      let host := r.takeWhile (!family.endsAuthority ·)
      let rest := r.dropWhile (!family.endsAuthority ·)
      if host.isEmpty ∨ Path.isDrive host then return addPath family u r
      match ← Host.parse host with
      | .name "localhost" => return addPath family u rest
      | host =>
        return addPath family (if holdsDrive rest then u else { u with host := some host }) rest
    else return addPath family u cs
  | cs => return addPath family u cs

/-! ## Whole URLs -/

/-- The URL whose significant characters are `cs`. -/
def read (cs : List Char) : Except Problem Url := do
  let some (scheme, rest) := splitScheme cs | throw .noScheme
  let u : Url := { scheme := String.ofList scheme, path := .segments [] }
  match Family.ofScheme scheme with
  | .file => readFile scheme rest
  | .network => readAuthority .network scheme (rest.dropWhile Family.network.isSlash)
  | .other =>
    match rest with
    | '/' :: '/' :: r => readAuthority .other scheme r
    | '/' :: r => return addPath .other u r
    | r =>
      let path := String.ofList (encode isControl (r.takeWhile (!endsPath ·)))
      return addQueryAndFragment .other { u with path := .plain path } (r.dropWhile (!endsPath ·))

def parse (s : String) : Except Problem Url :=
  read (significant s)

end ObjectVolume.Url
