import ObjectVolume.Error
import ObjectVolume.Json.Record
import ObjectVolume.Json.Value
import ObjectVolume.Text.Quoted
/-!
# Secrets

What is handed over to reach an object store: static keys or the name of a role, a region and an
endpoint. A secret comes as a map of texts, as JSON, or from the command line.

| here | there |
| --- | --- |
| `Secret` | `SecretBundle` |
| `Secret.role?` | `SecretBundle.iam_role_arn` |
| `Secret.labelled` | how `SecretBundle` is shown for debugging |
| `Secret.ofMap`, `Member.entryName` | `SecretBundle.from_map`, and the `KEY_` constants |
| `Secret.toJson`, `Secret.record`, `Member.name` | `SecretBundle` as JSON, and the names of its members there |
-/
namespace ObjectVolume

structure Secret where
  accessKeyId : String
  secretAccessKey : String
  /-- Where buckets are created. -/
  region : String
  endpoint : String
  /-- A role to assume instead of using the static keys. -/
  roleArn : Option String := none
  deriving DecidableEq, Repr

namespace Secret

/-- The role to assume, where an empty name counts as absent. -/
def role? (s : Secret) : Option String :=
  s.roleArn.filter (!·.isEmpty)

def labelled (s : Secret) : Text.Labelled where
  title := "SecretBundle"
  fields :=
    [("region", Text.quote s.region), ("endpoint", Text.quote s.endpoint),
     ("iam_role_arn", Text.quoteOption s.roleArn)]
  partially := true

inductive Member where
  | accessKeyId
  | secretAccessKey
  | region
  | endpoint
  | roleArn
  deriving DecidableEq

/-! ## Maps -/

/-- The name of an entry in a map. -/
def Member.entryName : Member → String
  | accessKeyId => "accessKeyID"
  | secretAccessKey => "secretAccessKey"
  | region => "region"
  | endpoint => "endpoint"
  | roleArn => "iamRoleArn"

/-- Reads a secret from the entries of a map. Only the endpoint has to be there, and not be empty. -/
def ofMap (entry : String → Option String) : Except ConfigProblem Secret :=
  let text (m : Member) : String := (entry m.entryName).getD ""
  match (entry Member.endpoint.entryName).filter (!·.isEmpty) with
  | none => .error .noEndpointEntry
  | some endpoint =>
    .ok {
      accessKeyId := text .accessKeyId
      secretAccessKey := text .secretAccessKey
      region := text .region
      endpoint
      roleArn := entry Member.roleArn.entryName }

/-! ## JSON -/

/-- The name of a member of an object. -/
def Member.name : Member → String
  | accessKeyId => "accessKeyID"
  | secretAccessKey => "secretAccessKey"
  | region => "region"
  | endpoint => "endpoint"
  | roleArn => "iamRoleArn"

/-- Maps and objects spell the names of their entries alike. -/
theorem Member.entryName_eq_name (m : Member) : m.entryName = m.name := by
  cases m <;> rfl

def toJson (s : Secret) : Json.Value :=
  .object
    [(Member.accessKeyId.name, .text s.accessKeyId),
     (Member.secretAccessKey.name, .text s.secretAccessKey), (Member.region.name, .text s.region),
     (Member.endpoint.name, .text s.endpoint), (Member.roleArn.name, .ofTextOption s.roleArn)]

def record : Json.Record Secret where
  title := "struct SecretBundle"
  Key := Member
  keys := [.accessKeyId, .secretAccessKey, .region, .endpoint, .roleArn]
  name := Member.name
  Value
    | .roleArn => Option String
    | _ => String
  read
    | .roleArn => Json.readOptional Json.readText
    | .accessKeyId | .secretAccessKey | .region | .endpoint => Json.readText
  absent
    | .accessKeyId | .secretAccessKey | .region => some ""
    | .endpoint => none
    | .roleArn => some none
  build get := return {
    accessKeyId := ← get .accessKeyId
    secretAccessKey := ← get .secretAccessKey
    region := ← get .region
    endpoint := ← get .endpoint
    roleArn := ← get .roleArn }

end Secret

end ObjectVolume
