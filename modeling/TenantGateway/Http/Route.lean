import TenantGateway.Exchange.Call
import TenantGateway.Http.Template

/-! # Routes

Which path and method lead to which operation.
-/
namespace TenantGateway.Http

inductive Operation where
  | page (name : String)
  | health
  | info
  | createStream
  | updateStream
  | listStreams
  | viewStream
  | deleteStream
  | createRule
  deriving DecidableEq, Repr

/-- The name that the content of a request's body has in the operation. No parameter of the path
may have it too. -/
def Operation.bodyName? : Operation → Option String
  | .createStream | .updateStream => some "data"
  | .createRule => some "rule"
  | _ => none

structure Route where
  method : String
  path : String
  operation : Operation
  deriving DecidableEq, Repr

namespace Route

def template (r : Route) : Template := .ofPath r.path

def name? (r : Route) (path : String) : Option String :=
  (r.template.match? path).map fun found => (found.lookup "name").getD ""

end Route

def pages (root : String) : List Route :=
  [⟨"GET", root ++ "/openapi.json", .page "openapi.json"⟩, ⟨"GET", root ++ "/docs", .page "docs"⟩,
    ⟨"GET", "/docs/oauth2-redirect", .page "docs/oauth2-redirect"⟩,
    ⟨"GET", root ++ "/redoc", .page "redoc"⟩]

def operations (root : String) : List Route :=
  let stream := root ++ "/streams/\x7bname\x7d"
  [⟨"GET", "/health", .health⟩, ⟨"GET", root ++ "/info", .info⟩,
    ⟨"POST", root ++ "/streams", .createStream⟩, ⟨"PUT", stream, .updateStream⟩,
    ⟨"GET", root ++ "/streams", .listStreams⟩, ⟨"GET", stream, .viewStream⟩,
    ⟨"DELETE", stream, .deleteStream⟩, ⟨"POST", root ++ "/rules", .createRule⟩]

def routes (root : String) : List Route := pages root ++ operations root

inductive Destination where
  | operation (op : Operation) (name : String)
  | otherMethod (allowed : String)
  | elsewhere (path : String)
  | nowhere
  deriving DecidableEq, Repr

def fitting (table : List Route) (path : String) : List (Route × String) :=
  table.filterMap fun r => (r.name? path).map fun name => (r, name)

/-- A path without the slashes at its end, or else with one more. -/
def withOtherEnd (path : String) : String :=
  if path.toList.getLast? = some '/' then
    String.ofList (path.toList.reverse.dropWhile (· == '/')).reverse
  else path ++ "/"

/-- The first route that fits path and method; else, of the routes that fit the path, the first
says what method is allowed; else the same path with another end may be known. -/
def destination (table : List Route) (method path : String) : Destination :=
  let known := fitting table path
  match known.find? fun (r, _) => r.method == method with
  | some (r, name) => .operation r.operation name
  | none =>
    match known with
    | (r, _) :: _ => .otherMethod r.method
    | [] =>
      if path ≠ "/" ∧ fitting table (withOtherEnd path) ≠ [] then .elsewhere (withOtherEnd path)
      else .nowhere

end TenantGateway.Http
