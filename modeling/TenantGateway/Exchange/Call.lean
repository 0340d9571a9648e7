import TenantGateway.Json.Value

/-! # Calls

Requests that the gateway sends.
-/
namespace TenantGateway

inductive Verb where
  | get
  | post
  | put
  | delete
  deriving DecidableEq, Repr

def Verb.text : Verb → String
  | .get => "GET"
  | .post => "POST"
  | .put => "PUT"
  | .delete => "DELETE"

structure EngineRequest where
  verb : Verb
  path : String
  body : Option Json

inductive Call where
  | identity (token : String)
  | signingKey
  | channel (url : String) (authorization : String) (timeout : Binary64)
  | engine (verb : Verb) (url : String) (body : Option Json) (timeout : Binary64)

end TenantGateway
