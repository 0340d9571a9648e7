import TenantGateway.Json.Parser

/-! # Problems of a token

What can be wrong with a signed token, or with the key to check it by.
-/
namespace TenantGateway.Token

/-- The families of problems. Those of the key are apart from those of the token. -/
inductive Family where
  | any
  | keyService
  | keyConnection
  | keySet
  | key
  | token
  | form
  | signature
  | expired
  | early
  | issueTime
  | subject
  | identifier
  | algorithm
  deriving DecidableEq, Repr

namespace Family

def isKeyService : Family → Bool
  | .keyService | .keyConnection => true
  | _ => false

/-- The token could not be taken apart; a signature that does not fit counts. -/
def isForm : Family → Bool
  | .form | .signature => true
  | _ => false

def isToken : Family → Bool
  | .any | .keyService | .keyConnection | .keySet | .key => false
  | _ => true

end Family

inductive TimeClaim where
  | issuedAt
  | notBefore
  | expiry
  deriving DecidableEq, Repr

def TimeClaim.key : TimeClaim → String
  | .issuedAt => "iat"
  | .notBefore => "nbf"
  | .expiry => "exp"

def TimeClaim.title : TimeClaim → String
  | .issuedAt => "Issued At claim"
  | .notBefore => "Not Before claim"
  | .expiry => "Expiration Time claim"

inductive Problem where
  | segments
  | headerPadding
  | headerText (reason : Json.Unreadable)
  | headerShape
  | detachedPayload
  | payloadPadding
  | signaturePadding
  | keyId
  | criticalShape
  | criticalNames
  | criticalUnsupported (name : String)
  | criticalAbsent (name : String)
  | detachedUnlisted
  | payloadAbsent
  | algorithmAbsent
  | algorithmRefused
  | signature
  | payloadText (reason : Json.Unreadable)
  | payloadShape
  | time (claim : TimeClaim)
  | early (claim : TimeClaim)
  | expired
  | subject
  | identifier
  | reported (family : Family) (text : String)
  deriving DecidableEq, Repr

namespace Problem

def family : Problem → Family
  | .keyId | .criticalShape | .criticalNames | .criticalUnsupported _ | .criticalAbsent _
  | .detachedUnlisted => .token
  | .algorithmAbsent | .algorithmRefused => .algorithm
  | .signature => .signature
  | .time .issuedAt => .issueTime
  | .early _ => .early
  | .expired => .expired
  | .subject => .subject
  | .identifier => .identifier
  | .reported family _ => family
  | _ => .form

def text : Problem → String
  | .segments => "Not enough segments"
  | .headerPadding => "Invalid header padding"
  | .headerText reason => "Invalid header string: " ++ reason.message
  | .headerShape => "Invalid header string: must be a json object"
  | .detachedPayload => "Payload segment must be empty when 'b64' is false."
  | .payloadPadding => "Invalid payload padding"
  | .signaturePadding => "Invalid crypto padding"
  | .keyId => "Key ID header parameter must be a string"
  | .criticalShape => "Invalid 'crit' header: must be a non-empty list"
  | .criticalNames => "Invalid 'crit' header: values must be strings"
  | .criticalUnsupported name => "Unsupported critical extension: " ++ name
  | .criticalAbsent name => "Critical extension '" ++ name ++ "' is missing from headers"
  | .detachedUnlisted => "The 'b64' header parameter requires 'b64' to be listed in 'crit'."
  | .payloadAbsent =>
    "It is required that you pass in a value for the \"detached_payload\" argument to decode a " ++
      "message having the b64 header set to false."
  | .algorithmAbsent => "Algorithm not specified"
  | .algorithmRefused => "The specified alg value is not allowed"
  | .signature => "Signature verification failed"
  | .payloadText reason => "Invalid payload string: " ++ reason.message
  | .payloadShape => "Invalid payload string: must be a json object"
  | .time claim => claim.title ++ " (" ++ claim.key ++ ") must be an integer."
  | .early claim => "The token is not yet valid (" ++ claim.key ++ ")"
  | .expired => "Signature has expired"
  | .subject => "Subject must be a string"
  | .identifier => "JWT ID must be a string"
  | .reported _ text => text

end Problem

end TenantGateway.Token
