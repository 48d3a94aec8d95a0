import ObjectVolume.Text.Quoted
/-!
# Refusals of the token service

The service names seven conditions by codes, and may answer with any other code or with none. No two
conditions have one code: `Condition.code_inj`.

| here | there |
| --- | --- |
| `Condition`, `Error` | `FederationError`: its named variants, and `Other` beside them |
| `Error.code`, `Error.detail` | `FederationError.code`, `FederationError.message` |
| `Error.message`, `Error.shown` | its text, and how it is shown for debugging |
| `Error.isRetryable` | `FederationError.is_retryable` |
-/
namespace ObjectVolume.Federation

/-- The conditions that have a code of their own. -/
inductive Condition where
  /-- The session policy is not a valid policy document. -/
  | malformedPolicyDocument
  /-- The compressed session policies are too large. -/
  | packedPolicyTooLarge
  /-- The identity provider rejected a claim of the token. -/
  | rejectedClaim
  /-- The identity provider could not be reached. -/
  | providerUnreachable
  | invalidToken
  | expiredToken
  /-- The token service is not active in the region. -/
  | regionDisabled
  deriving DecidableEq, Repr

namespace Condition

def all : List Condition :=
  [malformedPolicyDocument, packedPolicyTooLarge, rejectedClaim, providerUnreachable, invalidToken,
    expiredToken, regionDisabled]

/-- The code by which the service reports the condition. -/
def code : Condition → String
  | malformedPolicyDocument => "MalformedPolicyDocument"
  | packedPolicyTooLarge => "PackedPolicyTooLarge"
  | rejectedClaim => "IDPRejectedClaim"
  | providerUnreachable => "IDPCommunicationError"
  | invalidToken => "InvalidIdentityToken"
  | expiredToken => "ExpiredTokenException"
  | regionDisabled => "RegionDisabledException"

/-- What messages about the condition start with. -/
def phrase : Condition → String
  | malformedPolicyDocument => "Malformed policy document"
  | packedPolicyTooLarge => "Packed policy too large"
  | rejectedClaim => "Identity provider rejected claim"
  | providerUnreachable => "Identity provider communication error"
  | invalidToken => "Invalid identity token"
  | expiredToken => "Expired token"
  | regionDisabled => "Region disabled"

/-- The name of the condition in records that are shown. -/
def label : Condition → String
  | malformedPolicyDocument => "MalformedPolicyDocument"
  | packedPolicyTooLarge => "PackedPolicyTooLarge"
  | rejectedClaim => "IdpRejectedClaim"
  | providerUnreachable => "IdpCommunicationError"
  | invalidToken => "InvalidIdentityToken"
  | expiredToken => "ExpiredToken"
  | regionDisabled => "RegionDisabled"

theorem code_inj {c d : Condition} (h : c.code = d.code) : c = d := by
  revert h
  cases c <;> cases d <;> decide

end Condition

/-- Why an exchange failed: a condition with the message of the service, or anything else. -/
inductive Error where
  | named (condition : Condition) (message : String)
  | other (code : Option String) (message : String)
  deriving DecidableEq, Repr

namespace Error

/-- The code of the service; `Unknown` if it gave none. -/
def code : Error → String
  | named c _ => c.code
  | other (some c) _ => c
  | other none _ => "Unknown"

/-- The message of the service. -/
def detail : Error → String
  | named _ m => m
  | other _ m => m

def message : Error → String
  | named c m => c.phrase ++ ": " ++ m
  | other _ m => m

/-- Repeating the exchange may help. -/
def isRetryable : Error → Bool
  | named c _ => c = .providerUnreachable
  | other _ _ => true

/-- How the error is shown as a record. -/
def shown : Error → String
  | named c m => c.label ++ "(" ++ Text.quote m ++ ")"
  | other c m =>
    "Other \x7b code: " ++ Text.quoteOption c ++ ", message: " ++ Text.quote m ++ " \x7d"

end Error

end ObjectVolume.Federation
