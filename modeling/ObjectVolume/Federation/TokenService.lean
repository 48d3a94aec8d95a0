import ObjectVolume.Federation.Error
/-!
# The token service

The token service exchanges an identity token for temporary keys. Each exchange is one request over a
connection that is made for the first of them and kept. What a reply means is read off it by a client
library, whose exceptions and codes are its own: `Library.outcome` turns what it reports into keys or
an error.

| here | there |
| --- | --- |
| `IssuedKeys` | `TemporaryCredentials` |
| `Service` | `WebIdentityFederation` |
| `Exception`, `Fault`, `Library` | the client library of the service: its exceptions, its `SdkError`, and how it reads a reply |
| `Exception.condition` | `StsFederation.from_service_error` |
| `Fault.error` | `StsFederation.from_sdk_error` |
| `Exchanger`, `Exchanger.connect` | `StsFederation`, `StsFederation.client` |
| `exchange` | `StsFederation.assume_role_with_web_identity` |
-/
namespace ObjectVolume.Federation

/-- Keys that are issued for a role, for a while. -/
structure IssuedKeys where
  accessKeyId : String
  secretAccessKey : String
  sessionToken : String
  deriving DecidableEq, Repr

/-- A request to assume a role on behalf of the bearer of a token. -/
structure Request where
  role : String
  session : String
  token : String
  deriving DecidableEq, Repr

/-- Whoever answers requests. -/
abbrev Service := Request → Except Error IssuedKeys

/-- What comes back for one request. -/
inductive Reply where
  | issued (keys : IssuedKeys)
  /-- Success, but no keys are in the reply. -/
  | withoutKeys
  | refused (code : Option String) (message : Option String)
  /-- The reply is not in the form the service promises. -/
  | unreadable
  /-- No reply: the service could not be reached. -/
  | unreachable
  deriving DecidableEq, Repr

/-! ## The client library -/

/-- The exceptions that the library tells apart. -/
inductive Exception where
  | malformedPolicyDocument
  | packedPolicyTooLarge
  | idpRejectedClaim
  | idpCommunicationError
  | invalidIdentityToken
  | expiredToken
  | regionDisabled
  deriving DecidableEq, Repr

namespace Exception

def all : List Exception :=
  [malformedPolicyDocument, packedPolicyTooLarge, idpRejectedClaim, idpCommunicationError,
    invalidIdentityToken, expiredToken, regionDisabled]

/-- The code in a reply for which the library reports the exception. -/
def code : Exception → String
  | malformedPolicyDocument => "MalformedPolicyDocument"
  | packedPolicyTooLarge => "PackedPolicyTooLarge"
  | idpRejectedClaim => "IDPRejectedClaim"
  | idpCommunicationError => "IDPCommunicationError"
  | invalidIdentityToken => "InvalidIdentityToken"
  | expiredToken => "ExpiredTokenException"
  | regionDisabled => "RegionDisabledException"

/-- The condition that an exception stands for. -/
def condition : Exception → Condition
  | malformedPolicyDocument => .malformedPolicyDocument
  | packedPolicyTooLarge => .packedPolicyTooLarge
  | idpRejectedClaim => .rejectedClaim
  | idpCommunicationError => .providerUnreachable
  | invalidIdentityToken => .invalidToken
  | expiredToken => .expiredToken
  | regionDisabled => .regionDisabled

end Exception

/-- What the library reports instead of a success. -/
inductive Fault where
  /-- An exception that it tells apart, with the message of the reply. -/
  | modeled (exception : Exception) (message : Option String)
  /-- Any other refusal, with the code of the reply and all that the library says about it. -/
  | unhandled (code : Option String) (text : String)
  /-- There is no answer of the service, or none that can be read. -/
  | unanswered (text : String)
  deriving DecidableEq, Repr

def Fault.error : Fault → Error
  | modeled exception message => .named exception.condition (message.getD "")
  | unhandled code text => .other code text
  | unanswered text => .other none text

/-- A client library of the service. -/
structure Library where
  /-- Reads a reply: the keys in it, if there are any, or a fault. -/
  read : Reply → Except Fault (Option IssuedKeys)

namespace Library

/-- What a reply means. A named condition carries the message of the reply as it is. -/
def outcome (lib : Library) (reply : Reply) : Except Error IssuedKeys :=
  match lib.read reply with
  | .ok (some keys) => .ok keys
  | .ok none => .error (.other none "Token service returned no credentials")
  | .error fault => .error fault.error

/-- A library that has no more to say about refusals than their messages. -/
def plain : Library where
  read
    | .issued keys => .ok (some keys)
    | .withoutKeys => .ok none
    | .refused code message =>
      match Exception.all.find? (code = some ·.code) with
      | some exception => .error (.modeled exception message)
      | none => .error (.unhandled code (message.getD ""))
    | .unreadable => .error (.unanswered "Token service gave an unreadable answer")
    | .unreachable => .error (.unanswered "Token service cannot be reached")

end Library

/-! ## Exchanges -/

/-- A connection to the service in a region. -/
structure Connection where
  region : Option String
  deriving DecidableEq, Repr

/-- The way to the service, the state of which is a value of type `σ`. -/
structure Line (σ : Type) where
  /-- The region that the environment names. -/
  region : σ → Option String
  /-- Carries a request over a connection, and the reply back. -/
  carry : Connection → Request → σ → Reply × σ

/-- A request that has been sent, and what came back. -/
structure Sent where
  connection : Connection
  request : Request
  reply : Reply
  deriving DecidableEq, Repr

/-- Exchanges tokens for keys. -/
structure Exchanger where
  /-- The region to be used instead of the one of the environment. -/
  pinned : Option String := none
  /-- Made for the first exchange. -/
  connection : Option Connection := none
  deriving DecidableEq, Repr

/-- An exchanger and the line that it uses, with all that it has sent. -/
structure Exchanging (σ : Type) where
  exchanger : Exchanger
  line : σ
  sent : List Sent := []

variable {σ : Type}

/-- The connection of an exchanger, made now if there is none. -/
def Exchanger.connect (x : Exchanger) (line : Line σ) (s : σ) : Connection :=
  x.connection.getD ⟨x.pinned <|> line.region s⟩

/-- One exchange. -/
def exchange (lib : Library) (line : Line σ) (request : Request) (x : Exchanging σ) :
    Except Error IssuedKeys × Exchanging σ :=
  let connection := x.exchanger.connect line x.line
  let (reply, s) := line.carry connection request x.line
  (lib.outcome reply,
    { exchanger := { x.exchanger with connection := some connection }
      line := s
      sent := x.sent ++ [⟨connection, request, reply⟩] })

/-- Exchanges one after the other. -/
def exchangeAll (lib : Library) (line : Line σ) :
    List Request → Exchanging σ → List (Except Error IssuedKeys) × Exchanging σ
  | [], x => ([], x)
  | request :: rest, x =>
    let (answer, x) := exchange lib line request x
    let (answers, x) := exchangeAll lib line rest x
    (answer :: answers, x)

/-- The service behind a line that gives a reply for each request. -/
def serviceOver (reply : Request → Reply) : Service :=
  let line : Line Unit := ⟨fun _ => none, fun _ request s => (reply request, s)⟩
  fun request => (exchange .plain line request { exchanger := {}, line := () }).1

end ObjectVolume.Federation
