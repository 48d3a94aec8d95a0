import ObjectVolume.Url.Host
import ObjectVolume.Url.Path
/-!
# URLs

A URL in its parts, and the text of it. The text shows user name and password; `withoutUserinfo`
removes both.

| here | there |
| --- | --- |
| `Url` | `Url` of the `url` library |
| `Url.text` | its `as_str` |
| `Url.setUsername`, `Url.setPassword` | its `set_username`, `set_password` |
| `Url.hostText?` | its `host_str` |
-/
namespace ObjectVolume

/-- A URL. All parts are in their written form, percent-encoded where they have to be. -/
structure Url where
  scheme : String
  username : String := ""
  /-- A password that is not empty. -/
  password : Option String := none
  /-- None if the URL has no authority. -/
  host : Option Url.Host := none
  /-- A port other than the default one of the scheme. -/
  port : Option Nat := none
  path : Url.Path
  query : Option String := none
  fragment : Option String := none
  deriving DecidableEq, Repr

namespace Url

/-- A user name or a password as it is written. -/
def written (s : String) : String :=
  String.ofList (encode inUserinfo s.toList)

/-- User name and password, with the sign that separates them from the host. -/
def userinfoText (u : Url) : String :=
  match u.password with
  | some p => u.username ++ ":" ++ p ++ "@"
  | none => if u.username.isEmpty then "" else u.username ++ "@"

def portText (u : Url) : String :=
  match u.port with
  | some n => ":" ++ toString n
  | none => ""

/-- Scheme, authority and path. Without authority, a path that starts with two slashes gets a dot
segment in front, so that its second segment is not read as a host. -/
def hierarchyText (u : Url) : String :=
  let path := u.path.text
  u.scheme ++ ":" ++
    match u.host with
    | some h => "//" ++ u.userinfoText ++ h.text ++ u.portText ++ path
    | none => if path.toList.take 2 = ['/', '/'] then "/." ++ path else path

def text (u : Url) : String :=
  u.hierarchyText ++ ((u.query.map ("?" ++ ·)).getD "") ++ ((u.fragment.map ("#" ++ ·)).getD "")

/-- The written host, if there is one. -/
def hostText? (u : Url) : Option String :=
  match u.host with
  | none | some .empty => none
  | some h => some h.text

/-! ## User names and passwords -/

/-- A user name and a password can be set: the URL has a host, and does not name a file. -/
def takesUserinfo (u : Url) : Bool :=
  u.hostText?.isSome && u.scheme != "file"

def setUsername (u : Url) (username : String) : Option Url :=
  if u.takesUserinfo then some { u with username := written username } else none

/-- Sets the password, or removes it. An empty one is none. -/
def setPassword (u : Url) (password : Option String) : Option Url :=
  if u.takesUserinfo then
    some { u with password := (password.filter (!·.isEmpty)).map written }
  else none

/-- The URL with its user name and its password removed, as far as they can be set. -/
def withoutUserinfo (u : Url) : Url :=
  let u := (u.setUsername "").getD u
  (u.setPassword none).getD u

end Url

end ObjectVolume
