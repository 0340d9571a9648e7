import TenantGateway.Entity.Request
import TenantGateway.Facade
import TenantGateway.Http.Body
import TenantGateway.Http.Host
import TenantGateway.Http.Route

/-! # What a request asks for

What a request comes down to: an answer that no other service is needed for, or something to ask
of them.
-/
namespace TenantGateway.Http

inductive Demand where
  | settled (a : Answer)
  | info
  | task (token : String) (task : Task)

namespace Demand

def withToken (r : Request) (next : String → Except Fault Demand) : Except Fault Demand :=
  match bearer? r with
  | none => .ok (.settled (.unauthorized "Missing authorization token"))
  | some token => next token

/-- Goes on with what the body asks for. The body is taken apart before the token is looked at, and
read after that. -/
def withBody {α : Type} (r : Request) (reader : Json → Schema.Reading α) (next : α → Task) :
    Except Fault Demand :=
  match Body.parse r with
  | .error e => .ok (.settled (Body.unparsedAnswer e))
  | .ok content =>
    withToken r fun token =>
      match Body.read reader content with
      | .error f => .error f
      | .ok (.error answer) => .ok (.settled answer)
      | .ok (.ok a) => .ok (.task token (next a))

def health (settings : Settings) : Json :=
  .obj [("status", .str "healthy"), ("service", .str settings.appName),
    ("version", .str settings.appVersion)]

def ofOperation (settings : Settings) (r : Request) (name : String) :
    Operation → Except Fault Demand
  | .page _ => .ok (.settled (.plain 200 ""))
  | .health => .ok (.settled (.ofJson 200 (health settings)))
  | .info => .ok .info
  | .createStream =>
    withBody r (StreamRequest.read .caller) fun b => .createStream b.name b.topic b.row
  | .updateStream =>
    withBody r (StreamUpdate.read .caller) fun b => .updateStream name b.topic b.row
  | .listStreams => withToken r fun token => .ok (.task token .listStreams)
  | .viewStream => withToken r fun token => .ok (.task token (.viewStream name))
  | .deleteStream => withToken r fun token => .ok (.task token (.deleteStream name))
  | .createRule => withBody r (Rule.readRequest .caller) .createRule

/-- A path in which nothing starts a query or a fragment. -/
def pathInUrl (path : String) : String :=
  String.ofList (path.toList.flatMap fun c =>
    if c = '?' then ['%', '3', 'F'] else if c = '#' then ['%', '2', '3'] else [c])

def location (r : Request) (path : String) : String :=
  Text.Percent.encodeUrl
    ("http://" ++ Host.ofRequest r ++ pathInUrl path ++
      if r.query = "" then "" else "?" ++ r.query)

def ofRequest (settings : Settings) (r : Request) : Except Fault Demand :=
  match destination (routes settings.root) r.method r.path with
  | .operation op name => ofOperation settings r name op
  | .otherMethod allowed =>
    .ok (.settled ((Answer.detail 405 "Method Not Allowed").withHeaders [("allow", allowed)]))
  | .elsewhere path => .ok (.settled ⟨307, [("location", location r path)], .text ""⟩)
  | .nowhere => .ok (.settled (.detail 404 "Not Found"))

end Demand

end TenantGateway.Http
