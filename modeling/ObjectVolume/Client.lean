import ObjectVolume.Address
import ObjectVolume.Federation.Resolver
/-!
# Clients

A client is a configuration that has been accepted and a cancellation token. Cancelling a token
cancels all tokens derived from it.

| here | there |
| --- | --- |
| `Token` | `CancellationToken`; `Token.derived` is its `child_token` |
| `Client` | `S3Client` |
| `Client.ofConfig` | `S3Client.with_store` |
| `Client.connect` | `S3Client.new` |
| `Client.ofSecret` | `S3Client.from_secret` |
| `Client.cancel` | `S3Client.cancel` |
| `Client.labelled` | how `S3Client` is shown for debugging |
-/
namespace ObjectVolume

/-- A token is cancelled on its own account or with the one it is derived from. -/
inductive Token where
  | root (cancelled : Bool)
  | child (parent : Token) (cancelled : Bool)
  deriving DecidableEq, Repr

namespace Token

def fresh : Token := root false

/-- A token of its own that is cancelled with `t`. -/
def derived (t : Token) : Token := child t false

def isCancelled : Token → Bool
  | root c => c
  | child parent c => c || parent.isCancelled

def cancel : Token → Token
  | root _ => root true
  | child parent _ => child parent true

end Token

structure Client where
  config : Config
  token : Token
  deriving DecidableEq, Repr

namespace Client

/-- A client with a fresh token, if the configuration is valid. -/
def ofConfig (c : Config) : Except ConfigProblem Client := do
  c.validate
  return ⟨c, .fresh⟩

/-- A client for the store at the configured endpoint. -/
def connect (c : Config) : Except ConfigProblem Client := do
  let client ← ofConfig c
  c.checkAddress
  return client

/-- A client for what a secret stands for, and the requests made to the token service for it. -/
def ofSecret (service : Federation.Service) (tokenFile : Option Federation.TokenFile) (s : Secret) :
    Except Error Client × List Federation.Request :=
  let resolution := Federation.resolve service tokenFile s
  (resolution.result >>= fun c => (connect c).mapError .config, resolution.requests)

def cancel (c : Client) : Client :=
  { c with token := c.token.cancel }

/-- What is shown of a client: no user name, password or secret, and only the start of the access
key. -/
def labelled (c : Client) : Text.Labelled where
  title := "S3Client"
  fields :=
    [("endpoint", Text.quote c.config.maskedEndpoint), ("region", Text.quote c.config.region),
     ("access_key", Text.quote c.config.credentials.maskedKey),
     ("delete_parallelism", toString c.config.parallelism),
     ("cancelled", toString c.token.isCancelled)]

end Client

end ObjectVolume
