import ObjectVolume.Federation.Error
import ObjectVolume.Url.Host
/-!
# Errors

Every operation that fails says why with an `Error`. An eviction that failed on both of its ways
carries both errors: it reads as the first, and the second is its cause.

| here | there |
| --- | --- |
| `AddressProblem` | the errors of a base URL that `MinioStore.new` passes on |
| `ConfigProblem` | the texts of `Error.Config` |
| `tokenFileVariable` | `WEB_IDENTITY_TOKEN_FILE_ENV` |
| `StoreProblem` | the texts of `Error.Backend` that `MemoryStore` and `bulk_delete` give |
| `Error`, `Error.message` | `Error` and its text |
| `Error.causes` | its chain of sources |
| `Error.isRetryable`, `Error.isConfig`, `Error.isCancelled` | `Error.is_retryable`, `Error.is_config_error`, `Error.is_cancelled` |
| `Severity`, `Error.severity` | `ErrorSeverity`, `Error.severity` |
| `Error.fallback?` | `Error.fallback` |
| `Error.inContext` | `with_context`, and the one-line text of what it gives |
-/
namespace ObjectVolume

/-- Why a host is not accepted as the address of an object store. -/
inductive AddressProblem where
  | tooLong
  | invalidCharacter
  | invalidAuthority
  /-- A host of the cloud provider's domain that is none of its storage hosts. -/
  | unknownCloudHost (host : String)
  /-- The host is only reached over a secure connection. -/
  | insecureCloudHost (host : String)
  /-- Hosts of the provider's Chinese domain do not tell their region. -/
  | noRegion (host : String)
  deriving DecidableEq, Repr

def AddressProblem.message : AddressProblem → String
  | tooLong => "uri too long"
  | invalidCharacter => "invalid uri character"
  | invalidAuthority => "invalid authority"
  | unknownCloudHost host => "invalid Amazon AWS host " ++ host
  | insecureCloudHost host => "use HTTPS scheme for host " ++ host
  | noRegion host => "region missing in Amazon S3 China endpoint " ++ host

/-- What is wrong with a configuration. -/
inductive ConfigProblem where
  | invalidEndpoint (endpoint : String) (why : Url.Problem)
  | noHostname (endpoint : String)
  | invalidAddress (why : AddressProblem)
  | emptyAccessKey
  | emptySecretKey
  | noParallelism
  /-- A secret does not say where the object store is. -/
  | noEndpointEntry
  /-- A role is to be assumed, but no identity token is at hand. -/
  | noTokenFile (role : String)
  | other (message : String)
  deriving DecidableEq, Repr

/-- The variable that names the file with the identity token. -/
def tokenFileVariable : String := "AWS_WEB_IDENTITY_TOKEN_FILE"

def ConfigProblem.message : ConfigProblem → String
  | invalidEndpoint endpoint why => "Invalid endpoint URL '" ++ endpoint ++ "': " ++ why.message
  | noHostname endpoint => "Endpoint '" ++ endpoint ++ "' must include a valid hostname"
  | invalidAddress why => "Invalid endpoint URL: " ++ why.message
  | emptyAccessKey => "Access key cannot be empty"
  | emptySecretKey => "Secret key cannot be empty"
  | noParallelism => "Delete parallelism must be greater than zero"
  | noEndpointEntry => "Secret is missing the 'endpoint' entry"
  | noTokenFile role => tokenFileVariable ++ " must be set to assume role '" ++ role ++ "'"
  | other message => message

/-- What an object store answers instead of doing what it is asked. -/
inductive StoreProblem where
  | noSuchBucket (bucket : String)
  | bucketAlreadyOwned (bucket : String)
  | bucketNotEmpty (bucket : String)
  | noSuchKey (bucket key : String)
  | accessDenied (key : String)
  | listingInterrupted
  | bulkDeleteNotImplemented
  /-- The task that read a listing died with a message. -/
  | listingTaskDied (message : String)
  | other (message : String)
  deriving DecidableEq, Repr

def StoreProblem.message : StoreProblem → String
  | noSuchBucket bucket => "NoSuchBucket: " ++ bucket
  | bucketAlreadyOwned bucket => "BucketAlreadyOwnedByYou: " ++ bucket
  | bucketNotEmpty bucket => "BucketNotEmpty: " ++ bucket
  | noSuchKey bucket key => "NoSuchKey: " ++ bucket ++ "/" ++ key
  | accessDenied key => "AccessDenied: " ++ key
  | listingInterrupted => "InternalError: listing interrupted"
  | bulkDeleteNotImplemented => "NotImplemented: DeleteObjects"
  | listingTaskDied message =>
    "listing task failed: task # panicked with message " ++ Text.quote message
  | other message => message

inductive Error where
  | config (problem : ConfigProblem)
  | federation (error : Federation.Error)
  /-- A bulk deletion left `failed` objects of a scope undeleted. -/
  | bulkDelete (bucket scope : String) (failed : Nat)
  /-- Deleting the objects of a scope one by one, `failed` deletions of `total` failed. -/
  | partialEviction (bucket scope : String) (failed total : Nat)
  /-- Both ways to evict a scope failed. -/
  | eviction (primary fallback : Error)
  | cancelled
  | backend (problem : StoreProblem)
  | serialization (text : String)
  | io (text : String)
  /-- The client library of the object store failed. -/
  | client (text : String)
  deriving DecidableEq, Repr

/-- How much an error matters to whoever watches the program. -/
inductive Severity where
  | critical
  | high
  | medium
  | low
  deriving DecidableEq, Repr

namespace Error

def message : Error → String
  | config p => "Configuration error: " ++ p.message
  | federation e => "Federation error: " ++ e.message
  | bulkDelete bucket scope failed =>
    "Failed to remove " ++ toString failed ++ " objects of " ++ bucket ++ "/" ++ scope ++
      " with bulk delete"
  | partialEviction bucket scope failed total =>
    "Failed to remove " ++ toString failed ++ " objects out of total " ++ toString total ++ " of " ++
      bucket ++ "/" ++ scope
  | eviction primary _ => primary.message
  | cancelled => "Operation cancelled"
  | backend p => "Storage backend error: " ++ p.message
  | serialization text => "Serialization error: " ++ text
  | io text => "I/O error: " ++ text
  | client text => "MinIO client error: " ++ text

/-- Messages of the causes of an error, from the nearest to the last. -/
def causes : Error → List String
  | federation e => [e.message]
  | eviction _ fallback => fallback.message :: fallback.causes
  | serialization text => [text]
  | io text => [text]
  | client text => [text]
  | _ => []

/-- Repeating the whole operation may help. -/
def isRetryable : Error → Bool
  | config _ => false
  | federation e => e.isRetryable
  | bulkDelete _ _ _ => true
  | partialEviction _ _ _ _ => true
  | eviction primary _ => primary.isRetryable
  | cancelled => false
  | backend _ => true
  | serialization _ => false
  | io _ => true
  | client _ => true

def isConfig : Error → Bool
  | config _ => true
  | _ => false

def isCancelled : Error → Bool
  | cancelled => true
  | _ => false

def severity : Error → Severity
  | config _ => .critical
  | federation _ | partialEviction _ _ _ _ | eviction _ _ => .high
  | bulkDelete _ _ _ | serialization _ | client _ | backend _ => .medium
  | io _ | cancelled => .low

/-- The error of the second way to evict, if both have failed. -/
def fallback? : Error → Option Error
  | eviction _ fallback => some fallback
  | _ => none

/-- The message and all its causes in one line, after what was being done. -/
def inContext (context : String) (e : Error) : String :=
  ": ".intercalate (context :: e.message :: e.causes)

end Error

end ObjectVolume
