import TenantGateway.Schema.Reading

/-! # Rules

Rules: a query over streams, and the sinks that its results go to.
-/
namespace TenantGateway

open Schema

structure Sink where
  host : String
  port : Int
  channel : String
  subtopic : String
  username : String
  password : String
  deriving DecidableEq, Repr

namespace Sink

def model : String := "MainfluxSink"

def readFields (fields : Json.Fields) : Reading Sink :=
  (optional ⟨"host", none⟩ text "" fields).map Sink.mk
    |>.ap (optional ⟨"port", none⟩ whole 0 fields)
    |>.ap (required ⟨"channel", none⟩ text fields)
    |>.ap (optional ⟨"subtopic", none⟩ text "" fields)
    |>.ap (optional ⟨"username", none⟩ text "" fields)
    |>.ap (optional ⟨"password", none⟩ text "" fields)

def read (source : Source) : Json → Reading Sink := record source model readFields

def toJson (s : Sink) : Json :=
  .obj [("host", .str s.host), ("port", .int s.port), ("channel", .str s.channel),
    ("subtopic", .str s.subtopic), ("username", .str s.username), ("password", .str s.password)]

end Sink

structure Action where
  sink : Sink
  deriving DecidableEq, Repr

namespace Action

def model : String := "Action"

def readFields (source : Source) (fields : Json.Fields) : Reading Action :=
  (required ⟨"mainflux", none⟩ (Sink.read source) fields).map Action.mk

def read (source : Source) : Json → Reading Action := record source model (readFields source)

def toJson (a : Action) : Json := .obj [("mainflux", a.sink.toJson)]

end Action

structure Rule where
  id : String
  sql : String
  actions : List Action
  deriving DecidableEq, Repr

namespace Rule

def model : String := "Rule"

def readActions (source : Source) : Json → Reading (List Action) := list (Action.read source)

/-- A rule whose list of actions is read by `actions` where there is one. -/
def readFieldsWith (actions : Json → Reading (List Action)) (fields : Json.Fields) :
    Reading Rule :=
  (required ⟨"id", none⟩ text fields).map Rule.mk
    |>.ap (required ⟨"sql", none⟩ text fields)
    |>.ap (optional ⟨"actions", none⟩ actions [] fields)

def read (source : Source) : Json → Reading Rule :=
  record source model (readFieldsWith (readActions source))

def readSomeActions (source : Source) (v : Json) : Reading (List Action) :=
  match readActions source v with
  | .ok [] => complain (.refused "actions must not be empty") v
  | r => r

def requestModel : String := "RuleRequest"

/-- A rule in a request. A list of actions that is left out is not looked at. -/
def readRequest (source : Source) : Json → Reading Rule :=
  record source requestModel (readFieldsWith (readSomeActions source))

def toJson (r : Rule) : Json :=
  .obj [("id", .str r.id), ("sql", .str r.sql), ("actions", .arr (r.actions.map Action.toJson))]

end Rule

end TenantGateway
