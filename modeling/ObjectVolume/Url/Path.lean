import ObjectVolume.Url.Percent
import ObjectVolume.Url.Scheme
/-!
# Paths

How the `url` library reads the path of a URL: segments that stand for the same level, or for the one
above, are resolved.
-/
namespace ObjectVolume.Url

inductive Path where
  /-- The path of a URL without authority that does not start with a slash. -/
  | plain (s : String)
  /-- Segments, each written after a slash. -/
  | segments (ss : List String)
  deriving DecidableEq, Repr

namespace Path

def text : Path → String
  | plain s => s
  | segments ss => String.join (ss.map ("/" ++ ·))

/-- The segment stays where it is; the dot may be percent-encoded. -/
def isHere (segment : List Char) : Bool :=
  [".", "%2e"].contains (String.ofList (segment.map Char.toLower))

/-- The segment leads one level up; the dots may be percent-encoded. -/
def isUp (segment : List Char) : Bool :=
  ["..", ".%2e", "%2e.", "%2e%2e"].contains (String.ofList (segment.map Char.toLower))

/-- A letter and a colon or bar: a drive of a file path. -/
def isDrive : List Char → Bool
  | [c, d] => c.isAlpha && (d == ':' || d == '|')
  | _ => false

/-- A drive stays at the root of a file path. -/
def dropLastLevel (family : Family) (levels : List (List Char)) : List (List Char) :=
  match levels with
  | [] => []
  | last :: front => if family = .file ∧ isDrive last then last :: front else front

/-- Walks through segments; `levels` are those above, innermost first. -/
def resolve (family : Family) (levels : List (List Char)) : List (List Char) → List (List Char)
  | [] => levels.reverse
  | segment :: rest =>
    let stay (levels : List (List Char)) := if rest.isEmpty then [] :: levels else levels
    if isUp segment then resolve family (stay (dropLastLevel family levels)) rest
    else if isHere segment then resolve family (stay levels) rest
    else if family = .file ∧ isDrive segment then
      resolve family ([segment.headD 'C', ':'] :: levels) rest
    else resolve family (segment :: levels) rest

/-- The path whose segments, after its first slash, are the text `cs`. -/
def ofText (family : Family) (cs : List Char) : Path :=
  let segments := resolve family [] ((cs.splitOnP family.isSlash).map (encode inPath))
  let segments :=
    if family = .file then
      match segments.dropWhile List.isEmpty with
      | [] => [[]]
      | ss => ss
    else segments
  .segments (segments.map String.ofList)

end Path

end ObjectVolume.Url
