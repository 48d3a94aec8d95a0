import ObjectVolume.Config
/-!
# Addresses of object stores

Requests go to the host of the endpoint, over an encrypted connection if the endpoint's scheme is
`https` and a plain one otherwise. Hosts in the cloud provider's domain have to be storage hosts.

| here | there |
| --- | --- |
| `Address`, `Config.address` | the base URL that `MinioStore.new` makes of `endpoint_host` and `is_secure` |
| `Address.checkCharacters` | how the client library reads the authority of a base URL |
| `Address.checkCloudHost` | how it tells the hosts of the cloud provider apart |
| `Config.checkAddress` | `MinioStore.new`, as far as it can fail |
-/
namespace ObjectVolume

/-- Where requests go. -/
structure Address where
  secure : Bool
  /-- The host, with a port if the endpoint names one. -/
  authority : String
  deriving DecidableEq, Repr

namespace Address

/-- Scheme and authority. -/
def text (a : Address) : String :=
  (if a.secure then "https://" else "http://") ++ a.authority

/-! ## Authorities -/

/-- Longest address that is accepted, in bytes. -/
def maxLength : Nat := 65534

def isPlain (c : Char) : Bool :=
  c.isAlphanum || "!#$&'()*+,-./:;=?@[]_~".toList.contains c

/-- Percent signs are not accepted either, but any other bad character is reported first. -/
def checkCharacters (a : Address) : Except AddressProblem Unit :=
  let cs := a.authority.toList
  if a.text.utf8ByteSize > maxLength then .error .tooLong
  else if cs.any fun c => !isPlain c && c != '%' then .error .invalidCharacter
  else if cs.contains '%' then .error .invalidAuthority
  else .ok ()

/-- The authority without its port. -/
def host (a : Address) : List Char :=
  match a.authority.toList with
  | '[' :: r => '[' :: r.takeWhile (· != ']') ++ [']']
  | cs => cs.takeWhile (· != ':')

/-! ## Hosts of the cloud provider -/

def isWordChar (c : Char) : Bool :=
  c.isLower || c.isDigit || c == '_'

/-- The labels of a host name of lower-case letters, digits, hyphens and underscores, none of which
starts or ends with one of the latter two. Other hosts are not the provider's. -/
def labels? (host : List Char) : Option (List (List Char)) :=
  let isLabel (l : List Char) : Bool :=
    1 ≤ l.length && l.length ≤ 63 && l.all (fun c => isWordChar c || c == '-') &&
      !(['-', '_'].contains (l.headD ' ')) && !(['-', '_'].contains (l.getLastD ' '))
  let labels := host.splitOn '.'
  if labels.all isLabel then some labels else none

/-- The words of a label between hyphens after the words of `start`, if it starts with these. -/
def wordsAfter? (start : List String) (label : List Char) : Option (List (List Char)) :=
  let words := label.splitOn '-'
  let given := start.map String.toList
  let rest := words.drop given.length
  if words.take given.length = given ∧ rest.all (!·.isEmpty) then some rest else none

/-- The labels before the provider's domain, and whether that is the Chinese one. -/
def splitDomain? (labels : List (List Char)) : Option (List (List Char) × Bool) :=
  match labels.reverse.map String.ofList with
  | "com" :: "amazonaws" :: _ :: _ => some (labels.dropLast.dropLast, false)
  | "cn" :: "com" :: "amazonaws" :: _ :: _ => some (labels.dropLast.dropLast.dropLast, true)
  | _ => none

/-- Load balancers, two labels below the domain, may serve anything. -/
def isLoadBalancer (labels : List (List Char)) : Bool :=
  match labels.map String.ofList with
  | [_, _, "elb", "amazonaws", "com"] => true
  | _ => false

/-- How many of the labels before the domain say that this is a storage host. -/
def storageLabels? (labels : List (List Char)) : Option Nat :=
  let isEndpoint (l : List Char) : Bool := ((wordsAfter? ["vpce"] l).getD []) != []
  let isControl (l : List Char) : Bool := (wordsAfter? ["s3", "control"] l).isSome
  let isStorage (l : List Char) : Bool := (wordsAfter? ["s3"] l).isSome
  match labels with
  | a :: b :: c :: _ =>
    if (String.ofList a = "bucket" ∨ String.ofList a = "accesspoint") ∧ isEndpoint b ∧
      String.ofList c = "s3" then some 3
    else if isControl b then some 2
    else if isStorage a then some 1
    else none
  | [a, b] => if isControl b then some 2 else if isStorage a then some 1 else none
  | [a] => if isStorage a then some 1 else none
  | [] => none

/-- Refuses hosts in the provider's domain that are not storage hosts, access points without
encryption, and hosts in China, whose names do not tell the region. -/
def checkCloudHost (a : Address) : Except AddressProblem Unit :=
  let name := String.ofList a.host
  match labels? a.host with
  | none => .ok ()
  | some labels =>
    if isLoadBalancer labels then .ok ()
    else
      match splitDomain? labels with
      | none => .ok ()
      | some (front, chinese) =>
        match storageLabels? front with
        | none => .error (.unknownCloudHost name)
        | some n =>
          let storage := (front.take n).map String.ofList
          let isAccessPoint := storage.any fun l => (l.splitOn "s3-accesspoint").length > 1
          if isAccessPoint ∧ !a.secure then .error (.insecureCloudHost name)
          else if chinese ∧ !((storage.getLast?.getD "").endsWith "s3-accelerate") then
            .error (.noRegion name)
          else .ok ()

end Address

/-- The address of the configured endpoint. -/
def Config.address (c : Config) : Except ConfigProblem Address := do
  return { secure := ← c.isSecure, authority := ← c.host }

/-- Refuses endpoints that no connection can be opened to. -/
def Config.checkAddress (c : Config) : Except ConfigProblem Unit := do
  let a ← c.address
  match a.checkCharacters >>= fun _ => a.checkCloudHost with
  | .ok _ => return
  | .error why => throw (.invalidAddress why)

end ObjectVolume
