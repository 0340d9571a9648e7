import TenantGateway.Http.Cors
import TenantGateway.Http.Demand

/-! # The gateway over HTTP

The gateway over HTTP: each request is served by at most one operation, whose outcome is put into
an answer.
-/
namespace TenantGateway.Http

variable {κ : Type}

/-- What a request is answered, and the failure that nobody handled, if there was one. -/
structure Served (κ : Type) where
  calls : List κ
  answer : Answer
  escaped : Option Fault

def successStatus : Task → Nat
  | .createStream _ _ _ | .createRule _ => 201
  | _ => 200

def heightLimit : Nat := 255

/-- A product as callers see it. A number that is not finite is null to them; a value that is too
high cannot be shown. -/
def shown : Product → Except Fault Json
  | .result text => .ok (ResultAnswer.toJson ⟨text⟩)
  | .names names => .ok (StreamsAnswer.toJson ⟨names⟩)
  | .stream stream =>
    if stream.freeValues.all fun v => v.height ≤ heightLimit then .ok stream.toJson.finiteOrNull
    else .error .tooTall

def refusalAnswer (family : ErrorFamily) (text : String) : Answer :=
  if family.status = 401 then .unauthorized text else .detail family.status text

namespace Gateway

variable (settings : Settings) (s : Services κ)

def fulfil : Demand → Run κ Answer
  | .settled answer => pure answer
  | .info => do
    let info ← s.info
    return .ofJson 200 info.toJson
  | .task token task => do
    let product ← s.perform settings token task
    let v ← Run.ofOutcome (shown product)
    return .ofJson (successStatus task) v

def respond (r : Request) : Run κ Answer := do
  let demand ← Run.ofOutcome (Demand.ofRequest settings r)
  fulfil settings s demand

/-- Serves a request. A refusal of the gateway becomes an answer; any other failure escapes. -/
def serve (r : Request) : Served κ :=
  match Cors.preflight? r with
  | some (origin, method) => ⟨[], Cors.preflight settings.origins origin method r, none⟩
  | none =>
    let run := respond settings s r
    let share := Cors.share settings.origins (r.header? "origin")
    match run.outcome with
    | .ok answer => ⟨run.calls, share answer, none⟩
    | .error (.refusal reason cause) =>
      let text := (Fault.refusal reason cause).message
      ⟨run.calls, share (refusalAnswer reason.family text), none⟩
    | .error f => ⟨run.calls, .plain 500 "Internal Server Error", some f⟩

end Gateway

end TenantGateway.Http
