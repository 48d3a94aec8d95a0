import ObjectVolume.Url.Idna.Label
import ObjectVolume.Url.Ipv6
import ObjectVolume.Url.Scheme
/-!
# Hosts

A host is a domain name or an address. Domain names may be written in any script; what is sent to name
servers is their form in ASCII.

| here | there |
| --- | --- |
| `Host.parse`, `Host.parseOther` | how the `url` library reads hosts, of well-known schemes and of others |
| `Idna.toAscii` | what it asks `idna` for |
-/
namespace ObjectVolume.Url

/-! ## International domain names -/

namespace Idna

/-- The text that all spellings of a domain name have in common; none if it is no domain name. -/
def normalized? (name : List Char) : Option (List Char) := do
  let cs := Text.composed (← name.mapM mapped?).flatten
  if cs.any isForbidden then none else some cs

/-- The labels of a domain name. If one of them has letters that are written from right to left, all
of them have to show which direction they run in. -/
def labels? (name : List Char) : Option (List Label) := do
  let labels ← ((← normalized? name).splitOn '.').mapM Label.ofText?
  if labels.any Label.isRightToLeft ∧ !labels.all Label.hasOneDirection then none else some labels

/-- The form of a domain name in ASCII. -/
def toAscii (name : List Char) : Option (List Char) := do
  return ['.'].intercalate ((← labels? name).map Label.written)

end Idna

/-! ## Hosts -/

/-- Why a text is not a URL. -/
inductive Problem where
  | noScheme
  | emptyHost
  | invalidPort
  | invalidIpv4
  | invalidIpv6
  | invalidDomain
  | invalidDomainCharacter
  deriving DecidableEq, Repr

def Problem.message : Problem → String
  | noScheme => "relative URL without a base"
  | emptyHost => "empty host"
  | invalidPort => "invalid port number"
  | invalidIpv4 => "invalid IPv4 address"
  | invalidIpv6 => "invalid IPv6 address"
  | invalidDomain => "invalid international domain name"
  | invalidDomainCharacter => "invalid domain character"

inductive Host where
  /-- The host is left out, as in `file:///x`. -/
  | empty
  /-- A domain name, or what stands for one in URLs of other schemes. -/
  | name (s : String)
  | ipv4 (address : Nat)
  | ipv6 (groups : List Nat)
  deriving DecidableEq, Repr

namespace Host

def text : Host → String
  | empty => ""
  | name s => s
  | ipv4 a => Ipv4.text a
  | ipv6 gs => "[" ++ Ipv6.text gs ++ "]"

/-- The text between brackets, if the host starts with one. -/
def bracketed? : List Char → Option (Except Problem Host)
  | '[' :: r =>
    some <| if r.getLast? = some ']' then
      match Ipv6.parse r.dropLast with
      | some gs => .ok (.ipv6 gs)
      | none => .error .invalidIpv6
    else .error .invalidIpv6
  | _ => none

/-- The host of a URL with a well-known scheme: an address or a domain name. -/
def parse (cs : List Char) : Except Problem Host :=
  match bracketed? cs with
  | some answer => answer
  | none =>
    match (String.fromUTF8? (ByteArray.mk (decode cs).toArray)).bind fun s => Idna.toAscii s.toList with
    | none => .error .invalidDomain
    | some [] => .error .emptyHost
    | some domain =>
      if Ipv4.endsInNumber domain then
        match Ipv4.parse domain with
        | some a => .ok (.ipv4 a)
        | none => .error .invalidIpv4
      else .ok (.name (String.ofList domain))

/-- Characters that a host of another scheme does not hold. -/
def isForbidden (c : Char) : Bool :=
  ['\x00', '\t', '\n', '\r', ' ', '#', '/', ':', '<', '>', '?', '@', '[', '\\', ']', '^', '|'].contains c

/-- The host of a URL with another scheme. -/
def parseOther (cs : List Char) : Except Problem Host :=
  match bracketed? cs with
  | some answer => answer
  | none =>
    if cs.isEmpty then .ok .empty
    else if cs.any isForbidden then .error .invalidDomainCharacter
    else .ok (.name (String.ofList (encode isControl cs)))

/-- Splits off the host at the start of `cs`, up to a colon outside brackets or the end of the
authority. -/
def span (family : Family) (bracket : Bool) : List Char → List Char × List Char
  | [] => ([], [])
  | c :: r =>
    if (c == ':' && !bracket) || family.endsAuthority c then ([], c :: r)
    else
      let (host, rest) := span family (if c = '[' then true else if c = ']' then false else bracket) r
      (c :: host, rest)

end Host

end ObjectVolume.Url
