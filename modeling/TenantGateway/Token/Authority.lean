import TenantGateway.Entity.Identity
import TenantGateway.Exchange.Call
import TenantGateway.Exchange.Run
import TenantGateway.Settings
import TenantGateway.Token.Claims
import TenantGateway.Token.Compact

/-! # The authority

The authority that vouches for callers: from a token to its claims, and to the identity they name.
-/
namespace TenantGateway.Token

def verify (key : RsaKey) (now : Int) (token : String) : Except Problem Json.Fields := do
  let t ← Compact.ofToken token
  t.check key
  let claims ← readPayload t.payload
  checkClaims now claims
  return claims

/-- Why a token is not accepted when its key could not be had. Some failures are passed on. -/
def keyRefusal : Fault → Fault
  | .signing p =>
    if p.family.isKeyService then .token .noKey (some (.signing p))
    else if p.family.isForm then .token .undecodable (some (.signing p))
    else .signing p
  | f => f

def tokenRefusal (p : Problem) : Fault :=
  match p.family with
  | .expired => .token .expired (some (.signing p))
  | .signature => .token .badSignature (some (.signing p))
  | _ => .token .invalid (some (.signing p))

/-- The issuer of a token is an accepted one. A list or an object can be looked up nowhere. -/
def checkIssuer (allowed : List String) (claims : Json.Fields) : Except Fault Unit :=
  match claims.lookup "iss" with
  | some (.str issuer) => if issuer ∈ allowed then .ok () else .error (.token .issuer none)
  | some (.arr _) => .error (.unhashable "list")
  | some (.obj _) => .error (.unhashable "dict")
  | _ => .error (.token .issuer none)

def identityOf (claims : Json.Fields) : Except Fault Identity :=
  match claims.lookup "sub" with
  | some (.str subject) =>
    if subject = "" then .error (.token .noSubject none)
    else
      let email := (claims.lookup "email").getD .null
      match Identity.readFields [("id", .str subject), ("email", email)] with
      | .ok identity => .ok identity
      | .error ps => .error (.schema Identity.model ps)
  | _ => .error (.token .noSubject none)

structure Authority where
  key : Except Fault RsaKey
  now : Int

namespace Authority

variable (a : Authority) (settings : Settings)

/-- The claims of a token. Its key is asked for once, and not at all for an empty token. -/
def claims (token : String) : Run Call Json.Fields :=
  if token = "" then .fail (.token .empty none)
  else do
    let key ← (Run.ask .signingKey a.key).mapFault keyRefusal
    let claims ← Run.ofOutcome ((verify key a.now token).mapError tokenRefusal)
    Run.ofOutcome (checkIssuer settings.allowedIssuers claims)
    return claims

def identify (token : String) : Run Call Identity := do
  let claims ← a.claims settings token
  Run.ofOutcome (identityOf claims)

end Authority

end TenantGateway.Token
