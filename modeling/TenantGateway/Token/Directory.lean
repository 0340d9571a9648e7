import TenantGateway.Entity.Identity
import TenantGateway.Exchange.Call
import TenantGateway.Exchange.Run

/-! # A directory of tokens

A fixed directory of tokens and who they belong to.
-/
namespace TenantGateway.Token

/-- What is known of a token: a description of its owner, or a failure to find one. -/
abbrev Directory := List (String × Except Fault Json)

def Directory.find (d : Directory) (token : String) : Except Fault Identity :=
  match d.lookup token with
  | none => .error (.token (.reported "Invalid token") none)
  | some (.error f) => .error f
  | some (.ok v) =>
    match Identity.read .program v with
    | .ok identity => .ok identity
    | .error ps => .error (.schema Identity.model ps)

def Directory.identify (d : Directory) (token : String) : Run Call Identity :=
  .ask (.identity token) (d.find token)

end TenantGateway.Token
