import ObjectVolume.Config
import ObjectVolume.Federation.TokenService
import ObjectVolume.Secret
/-!
# From secrets to configurations

Static keys are used as they are. If the secret names a role, the identity token is read from a
file and exchanged for temporary keys; the static keys then play no part.

| here | there |
| --- | --- |
| `TokenFile.read` | reading `CredentialResolver.token_file` |
| `sessionName` | `ROLE_SESSION_NAME` |
| `assumeRole` | `CredentialResolver.federate` |
| `resolve` | `CredentialResolver.resolve` |
-/
namespace ObjectVolume.Federation

/-- What the path of the identity token leads to. -/
inductive TokenFile where
  | missing
  | directory
  /-- The system does not give the content, for another reason. -/
  | unreadable (reason : String)
  | file (content : ByteArray)

/-- The token in the file, unchanged. -/
def TokenFile.read : TokenFile → Except ObjectVolume.Error String
  | missing => .error (.io "No such file or directory (os error 2)")
  | directory => .error (.io "Is a directory (os error 21)")
  | unreadable reason => .error (.io reason)
  | file content =>
    match String.fromUTF8? content with
    | some token => .ok token
    | none => .error (.io "stream did not contain valid UTF-8")

/-- The session name of every role that is assumed. -/
def sessionName : String := "bucketvol"

/-- What resolving a secret gives, and the requests made for it. -/
structure Resolution where
  result : Except ObjectVolume.Error Config
  requests : List Request

/-- Reads the token and exchanges it for keys to act as `role`. -/
def assumeRole (service : Service) (tokenFile : Option TokenFile) (role : String) :
    Except ObjectVolume.Error Credentials × List Request :=
  match tokenFile with
  | none => (.error (.config (.noTokenFile role)), [])
  | some file =>
    match file.read with
    | .error e => (.error e, [])
    | .ok token =>
      let request : Request := ⟨role, sessionName, token⟩
      match service request with
      | .error e => (.error (.federation e), [request])
      | .ok keys =>
        (.ok ⟨keys.accessKeyId, keys.secretAccessKey, some keys.sessionToken⟩, [request])

/-- The configuration that a secret stands for. -/
def resolve (service : Service) (tokenFile : Option TokenFile) (s : Secret) : Resolution :=
  let config (credentials : Credentials) : Config :=
    { credentials, region := s.region, endpoint := s.endpoint }
  match s.role? with
  | none => ⟨.ok (config ⟨s.accessKeyId, s.secretAccessKey, none⟩), []⟩
  | some role =>
    let (credentials, requests) := assumeRole service tokenFile role
    ⟨credentials.map config, requests⟩

end ObjectVolume.Federation
