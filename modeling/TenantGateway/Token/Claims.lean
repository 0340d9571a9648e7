import TenantGateway.Number.Numeral
import TenantGateway.Token.Problem

/-! # Claims of a token

The claims of a token that are checked whoever issued it: its time limits, its subject and its
identifier, in this order.
-/
namespace TenantGateway.Token

/-- The whole number that a time claim holds: fractions are dropped, and booleans and numerals in
text count. -/
def timeOf? : Json → Option Int
  | .int n => some n
  | .bool b => some (if b then 1 else 0)
  | .number x => x.truncate?
  | .str s => Numeral.integer? s
  | _ => none

def checkTime (claim : TimeClaim) (inTime : Int → Bool) (late : Problem) (claims : Json.Fields) :
    Except Problem Unit :=
  match claims.lookup claim.key with
  | none => .ok ()
  | some v =>
    match timeOf? v with
    | none => .error (.time claim)
    | some t => if inTime t then .ok () else .error late

def checkText (key : String) (wrong : Problem) (claims : Json.Fields) : Except Problem Unit :=
  match claims.lookup key with
  | none => .ok ()
  | some (.str _) => .ok ()
  | some _ => .error wrong

/-- A token counts from its issue and from its start on, and up to its expiry, not at it. -/
def checkClaims (now : Int) (claims : Json.Fields) : Except Problem Unit := do
  checkTime .issuedAt (· ≤ now) (.early .issuedAt) claims
  checkTime .notBefore (· ≤ now) (.early .notBefore) claims
  checkTime .expiry (now < ·) .expired claims
  checkText "sub" .subject claims
  checkText "jti" .identifier claims

end TenantGateway.Token
