import TenantGateway.Entity.Identity
import TenantGateway.Entity.Info
import TenantGateway.Entity.Rule
import TenantGateway.Entity.Stream
import TenantGateway.Exchange.Channels
import TenantGateway.Exchange.Engine
import TenantGateway.Namespace

/-! # Operations on streams and rules

The operations on streams and rules. Each finds out who the caller is, checks the channel it reads
from or writes to if there is one, qualifies names with the caller's tag, and sends the rules
engine one request. The other services may answer anything or fail in any way. Names, ids and tokens
are sequences of Unicode scalar values.
-/
namespace TenantGateway

/-- The services that operations rely on. `κ` is what is recorded of calls to them. -/
structure Services (κ : Type) where
  identify : String → Run κ Identity
  channel : (id token : String) → Run κ Json
  engine : EngineRequest → Run κ Response

inductive Change where
  | createStream
  | updateStream
  | deleteStream
  | createRule
  deriving DecidableEq, Repr

namespace Change

def name : Change → String
  | .createStream => "Create stream"
  | .updateStream => "Update stream"
  | .deleteStream => "Delete stream"
  | .createRule => "Create rule"

def expected : Change → Int
  | .createStream | .createRule => 201
  | .updateStream | .deleteStream => 200

end Change

/-- The engine's answer to a change in words. A failure is reported, not raised; it is raised only
if the answer cannot be read. -/
def report (action : String) (expected : Int) (r : Response) : Except Fault String :=
  if r.status = expected then .ok (action ++ " successful.")
  else
    match r.text with
    | .ok reason =>
      .ok (action ++ " failed. Kuiper http status: " ++ toString r.status ++ ". " ++ reason)
    | .error f =>
      match f with
      | .transport _ _ | .undecodable _ => .error (.refusal .unreadable (some f))
      | f => .error f

inductive Task where
  | createStream (name topic row : String)
  | updateStream (name topic row : String)
  | listStreams
  | viewStream (name : String)
  | deleteStream (name : String)
  | createRule (rule : Rule)

inductive Product where
  | result (text : String)
  | names (names : List String)
  | stream (stream : Stream)

namespace Services

variable {κ : Type} (s : Services κ) (settings : Settings)

def tokenFault : Fault → Fault
  | .token reason cause => .refusal .unauthorized (some (.token reason cause))
  | f => f

def channelFault : Fault → Fault
  | .channel reason cause => .refusal .unauthorized (some (.channel reason cause))
  | f => f

def caller (token : String) : Run κ Identity := (s.identify token).mapFault tokenFault

def checkChannel (id token : String) : Run κ Json := (s.channel id token).mapFault channelFault

def send (c : Change) (r : EngineRequest) : Run κ String := do
  let answer ← s.engine r
  Run.ofOutcome (report c.name c.expected answer)

def declarationBody (name topic row : String) : Json :=
  .obj [("sql",
    .str (Namespace.declaration name topic row settings.streamFormat settings.streamKind))]

/-- The answer's content as a value of `read`, or else the refusal with what was wrong. -/
def decode {α : Type} (model : String) (read : Json → Schema.Reading α) (refusal : Refusal)
    (r : Response) : Except Fault α :=
  let content : Except Fault α :=
    match r.json with
    | .error f => .error f
    | .ok v =>
      match read v with
      | .ok a => .ok a
      | .error ps => .error (.schema model ps)
  content.mapError fun f => if f.isAboutValue then .refusal refusal (some f) else f

def info : Run κ Info := do
  let answer ← s.engine ⟨.get, "", none⟩
  Run.ofOutcome (decode Info.model (Info.read .program) .infoPayload answer)

def createStream (token name topic row : String) : Run κ String := do
  let user ← s.caller token
  let _ ← s.checkChannel topic token
  let name := Namespace.qualify user.id name
  s.send .createStream ⟨.post, "streams", some (declarationBody settings name topic row)⟩

def updateStream (token name topic row : String) : Run κ String := do
  let user ← s.caller token
  let _ ← s.checkChannel topic token
  let name := Namespace.qualify user.id name
  s.send .updateStream
    ⟨.put, Namespace.streamPath name, some (declarationBody settings name topic row)⟩

def namesOf : Json → Except Fault (List String)
  | .null => .ok []
  | .arr items =>
    match items.mapM (fun v => match v with | .str s => some s | _ => none) with
    | some names => .ok names
    | none => .error (.refusal .streamNames none)
  | _ => .error (.refusal .streamNames none)

def streamNames (user : String) (r : Response) : Except Fault (List String) :=
  match decode "" .ok .streamList r with
  | .error f => .error f
  | .ok v => (namesOf v).map (Namespace.unqualifyAll user)

def listStreams (token : String) : Run κ (List String) := do
  let user ← s.caller token
  let answer ← s.engine ⟨.get, "streams", none⟩
  Run.ofOutcome (streamNames user.id answer)

def streamOf (user : String) (r : Response) : Except Fault Stream :=
  if r.status = 404 then .error (.refusal .notFound none)
  else
    (decode Stream.model (Stream.read .program) .streamPayload r).map fun stream =>
      { stream with name := Namespace.unqualify user stream.name }

def viewStream (token name : String) : Run κ Stream := do
  let user ← s.caller token
  let answer ← s.engine ⟨.get, Namespace.streamPath (Namespace.qualify user.id name), none⟩
  Run.ofOutcome (streamOf user.id answer)

def deleteStream (token name : String) : Run κ String := do
  let user ← s.caller token
  s.send .deleteStream ⟨.delete, Namespace.streamPath (Namespace.qualify user.id name), none⟩

/-- Creates a rule. Only the channel of its first action is checked. -/
def createRule (token : String) (rule : Rule) : Run κ String := do
  let user ← s.caller token
  match rule.actions with
  | [] => Run.fail (.refusal .noActions none)
  | action :: _ =>
    let _ ← s.checkChannel action.sink.channel token
    let sql ← Run.ofOutcome
      ((Namespace.qualifyQuery user.id rule.sql).mapError fun r => .refusal r none)
    let rule := { rule with id := Namespace.qualify user.id rule.id, sql }
    s.send .createRule ⟨.post, "rules", some rule.toJson⟩

def perform (token : String) : Task → Run κ Product
  | .createStream name topic row => .result <$> s.createStream settings token name topic row
  | .updateStream name topic row => .result <$> s.updateStream settings token name topic row
  | .listStreams => .names <$> s.listStreams token
  | .viewStream name => .stream <$> s.viewStream token name
  | .deleteStream name => .result <$> s.deleteStream token name
  | .createRule rule => .result <$> s.createRule token rule

end Services

def Services.overNetwork (settings : Settings) (identify : String → Run Call Identity)
    (channels : String → Except Fault Response) (engine : EngineRequest → Except Fault Response) :
    Services Call where
  identify := identify
  channel := Channels.lookup settings channels
  engine := Engine.request settings engine

end TenantGateway
