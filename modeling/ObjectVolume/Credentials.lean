import ObjectVolume.Json.Record
import ObjectVolume.Json.Value
import ObjectVolume.Text.Quoted
/-!
# Credentials

Keys to an object store. Whatever is shown or written of them shows no secret key and no session
token, and the access key only in part.

| here | there |
| --- | --- |
| `Credentials` | `S3Credentials` |
| `Credentials.token?`, `Credentials.isTemporary` | `S3Credentials.session_token`, `S3Credentials.is_temporary` |
| `Credentials.mask`, `Credentials.maskedKey` | `S3Credentials.access_key_masked` |
| `Credentials.labelled` | how `S3Credentials` are shown for debugging |
| `Credentials.toJson`, `Credentials.record` | `S3Credentials` as JSON |
-/
namespace ObjectVolume

/-- Static credentials have no session token; those issued for a role carry one. -/
structure Credentials where
  accessKey : String
  secretKey : String
  sessionToken : Option String := none
  deriving DecidableEq, Repr

namespace Credentials

/-- The session token, where an empty one counts as absent. -/
def token? (c : Credentials) : Option String :=
  c.sessionToken.filter (!·.isEmpty)

def isTemporary (c : Credentials) : Bool :=
  c.token?.isSome

/-- A key as it is shown: asterisks for one of at most four bytes, else its first four characters
and three asterisks. -/
def mask (key : String) : String :=
  if key.utf8ByteSize ≤ 4 then String.ofList (List.replicate key.utf8ByteSize '*')
  else String.ofList (key.toList.take 4 ++ ['*', '*', '*'])

def maskedKey (c : Credentials) : String :=
  mask c.accessKey

def labelled (c : Credentials) : Text.Labelled where
  title := "S3Credentials"
  fields := [("access_key", Text.quote c.maskedKey), ("temporary", toString c.isTemporary)]
  partially := true

/-! ## JSON -/

inductive Member where
  | accessKey
  | secretKey
  | sessionToken
  deriving DecidableEq

def Member.name : Member → String
  | accessKey => "access_key"
  | secretKey => "secret_key"
  | sessionToken => "session_token"

/-- Secrets are read, but never written. -/
def toJson (c : Credentials) : Json.Value :=
  .object [(Member.accessKey.name, .text c.accessKey)]

def record : Json.Record Credentials where
  title := "struct S3Credentials"
  Key := Member
  keys := [.accessKey, .secretKey, .sessionToken]
  name := Member.name
  Value
    | .sessionToken => Option String
    | _ => String
  read
    | .accessKey | .secretKey => Json.readText
    | .sessionToken => Json.readOptional Json.readText
  absent
    | .accessKey => none
    | .secretKey => some ""
    | .sessionToken => some none
  build get := return {
    accessKey := ← get .accessKey
    secretKey := ← get .secretKey
    sessionToken := ← get .sessionToken }

end Credentials

end ObjectVolume
