import ObjectVolume.Credentials
import ObjectVolume.Error
import ObjectVolume.Url.Parse
/-!
# Configurations

A client is built from a configuration that has passed `validate`.

| here | there |
| --- | --- |
| `Config` | `S3Config` |
| `defaultParallelism` | `DEFAULT_DELETE_PARALLELISM` |
| `Config.url` | `S3Config.endpoint_url` |
| `Config.isSecure`, `Config.host` | `S3Config.is_secure`, `S3Config.endpoint_host` |
| `Config.maskedEndpoint` | `S3Config.endpoint_masked` |
| `Config.validate` | `S3Config.validate` |
| `Config.toJson`, `Config.record` | `S3Config` as JSON |
-/
namespace ObjectVolume

/-- How many objects are deleted at once if nothing else is said. -/
def defaultParallelism : UInt64 := 16

structure Config where
  credentials : Credentials
  /-- Where buckets are created. -/
  region : String
  /-- URL of the object store. -/
  endpoint : String
  /-- Recorded in volume descriptors. -/
  mounter : String := ""
  /-- Greatest number of single deletions in flight. -/
  parallelism : UInt64 := defaultParallelism
  deriving DecidableEq, Repr

namespace Config

/-! ## The endpoint -/

/-- The endpoint as a URL, which must have a host. -/
def url (c : Config) : Except ConfigProblem Url :=
  match Url.parse c.endpoint with
  | .error why => .error (.invalidEndpoint c.endpoint why)
  | .ok u => if u.hostText?.isSome then .ok u else .error (.noHostname c.endpoint)

/-- The connection is encrypted. -/
def isSecure (c : Config) : Except ConfigProblem Bool :=
  c.url.map (·.scheme == "https")

/-- The host of the endpoint, and its port if the URL spells one out. -/
def host (c : Config) : Except ConfigProblem String :=
  c.url.map fun u => (u.hostText?.getD "") ++ u.portText

/-- The endpoint as it is shown: without user name and password. -/
def maskedEndpoint (c : Config) : String :=
  match Url.parse c.endpoint with
  | .ok u => u.withoutUserinfo.text
  | .error _ => "<invalid endpoint>"

/-- A configuration works if its endpoint does, and nothing that is needed is missing. -/
def validate (c : Config) : Except ConfigProblem Unit := do
  let _ ← c.url
  if c.credentials.accessKey.isEmpty then throw .emptyAccessKey
  if c.credentials.secretKey.isEmpty then throw .emptySecretKey
  if c.parallelism = 0 then throw .noParallelism

/-- A valid configuration allows for at least one deletion at a time. -/
theorem parallelism_pos {c : Config} (h : c.validate = .ok ()) : 1 ≤ c.parallelism.toNat := by
  unfold validate at h
  cases hu : c.url with
  | error e => simp [hu, bind, Except.bind] at h
  | ok u =>
    by_cases hp : c.parallelism = 0
    · revert h
      simp only [hu, hp, bind, Except.bind, throw, throwThe, MonadExceptOf.throw]
      split
      · simp
      split <;> simp
    · have hne : c.parallelism.toNat ≠ 0 := fun h0 => hp (UInt64.toNat_inj.1 h0)
      omega

/-! ## JSON -/

inductive Member where
  | credentials
  | region
  | endpoint
  | mounter
  | parallelism
  deriving DecidableEq

def Member.name : Member → String
  | credentials => "credentials"
  | region => "region"
  | endpoint => "endpoint"
  | mounter => "mounter"
  | parallelism => "delete_parallelism"

def toJson (c : Config) : Json.Value :=
  .object
    [(Member.credentials.name, c.credentials.toJson), (Member.region.name, .text c.region),
     (Member.endpoint.name, .text c.endpoint), (Member.mounter.name, .text c.mounter),
     (Member.parallelism.name, .integer c.parallelism.toNat)]

def record : Json.Record Config where
  title := "struct S3Config"
  Key := Member
  keys := [.credentials, .region, .endpoint, .mounter, .parallelism]
  name := Member.name
  Value
    | .credentials => Credentials
    | .parallelism => Int
    | _ => String
  read
    | .credentials => Credentials.record.readRecord
    | .region | .endpoint | .mounter => Json.readText
    | .parallelism => Json.readInteger .unsigned
  absent
    | .mounter => some ""
    | .parallelism => some defaultParallelism.toNat
    | .credentials | .region | .endpoint => none
  build get := return {
    credentials := ← get .credentials
    region := ← get .region
    endpoint := ← get .endpoint
    mounter := ← get .mounter
    parallelism := .ofNat (← get .parallelism).toNat }

end Config

end ObjectVolume
