/-!
# Schemes

Some schemes are well known: their URLs always have a host, backslashes in them are slashes, and
they have a default port, which is not written.
-/
namespace ObjectVolume.Url

def defaultPort (scheme : List Char) : Option Nat :=
  match String.ofList scheme with
  | "http" | "ws" => some 80
  | "https" | "wss" => some 443
  | "ftp" => some 21
  | _ => none

/-- The three families of schemes. -/
inductive Family where
  /-- Files have a path and hardly ever a host. -/
  | file
  /-- Schemes with a default port. -/
  | network
  | other
  deriving DecidableEq

def Family.ofScheme (scheme : List Char) : Family :=
  if scheme = ['f', 'i', 'l', 'e'] then .file
  else if (defaultPort scheme).isSome then .network
  else .other

def Family.isWellKnown (f : Family) : Bool :=
  f != .other

/-- The character ends a path segment. -/
def Family.isSlash (f : Family) (c : Char) : Bool :=
  c == '/' || (f.isWellKnown && c == '\\')

/-- The character ends the authority. -/
def Family.endsAuthority (f : Family) (c : Char) : Bool :=
  f.isSlash c || c == '?' || c == '#'

/-- A scheme in lower case, and what follows its colon. -/
def splitScheme (cs : List Char) : Option (List Char × List Char) :=
  let isSchemeChar (c : Char) : Bool := c.isAlphanum || c == '+' || c == '-' || c == '.'
  match cs.takeWhile isSchemeChar, cs.dropWhile isSchemeChar with
  | c :: scheme, ':' :: rest =>
    if c.isAlpha then some ((c :: scheme).map Char.toLower, rest) else none
  | _, _ => none

end ObjectVolume.Url
