import TenantGateway.Facade
import TenantGateway.Proofs.Namespace
import TenantGateway.Proofs.Run

/-! # Plans

The operations take one course: the caller is found out, a channel is looked up if there is one, the
engine is sent one request, and its answer is read. A plan is what differs between them once the
caller is known. Carrying out a task is following its plan.
-/
namespace TenantGateway

open Namespace

/-- What a task comes down to for a known caller: the channel that it looks up, if any, what it then
asks of the engine, and what it makes of the answer. Either of the first two may be a refusal. -/
structure Plan where
  channel : Except Fault (Option String)
  request : Except Fault EngineRequest
  conclude : Response → Except Fault Product

namespace Plan

variable {κ : Type}

def change (c : Change) (channel : Except Fault (Option String))
    (request : Except Fault EngineRequest) : Plan :=
  ⟨channel, request, fun answer => (report c.name c.expected answer).map .result⟩

/-- The look-up of a channel, where there is one. What is found is not used. -/
def consult (s : Services κ) (token : String) : Option String → Run κ Unit
  | none => pure ()
  | some id => (fun _ => ()) <$> s.checkChannel id token

def follow (s : Services κ) (token : String) (p : Plan) : Run κ Product := do
  let channel ← Run.ofOutcome p.channel
  consult s token channel
  let request ← Run.ofOutcome p.request
  let answer ← s.engine request
  Run.ofOutcome (p.conclude answer)

end Plan

namespace Task

def ruleChannel : List Action → Except Fault (Option String)
  | [] => .error (.refusal .noActions none)
  | action :: _ => .ok (some action.sink.channel)

def ruleRequest (user : String) (rule : Rule) : Except Fault EngineRequest :=
  ((qualifyQuery user rule.sql).mapError fun r => .refusal r none).map fun sql =>
    ⟨.post, "rules", some (Rule.toJson { rule with id := qualify user rule.id, sql })⟩

def plan (settings : Settings) (user : String) : Task → Plan
  | .createStream name topic row =>
    .change .createStream (.ok (some topic))
      (.ok ⟨.post, "streams",
        some (Services.declarationBody settings (qualify user name) topic row)⟩)
  | .updateStream name topic row =>
    .change .updateStream (.ok (some topic))
      (.ok ⟨.put, streamPath (qualify user name),
        some (Services.declarationBody settings (qualify user name) topic row)⟩)
  | .listStreams =>
    ⟨.ok none, .ok ⟨.get, "streams", none⟩,
      fun answer => (Services.streamNames user answer).map .names⟩
  | .viewStream name =>
    ⟨.ok none, .ok ⟨.get, streamPath (qualify user name), none⟩,
      fun answer => (Services.streamOf user answer).map .stream⟩
  | .deleteStream name =>
    .change .deleteStream (.ok none) (.ok ⟨.delete, streamPath (qualify user name), none⟩)
  | .createRule rule => .change .createRule (ruleChannel rule.actions) (ruleRequest user rule)

/-- The channel that a task refers to. A rule's is that of its first action. -/
def channel? : Task → Option String
  | .createStream _ topic _ | .updateStream _ topic _ => some topic
  | .createRule rule => rule.actions.head?.map (·.sink.channel)
  | .listStreams | .viewStream _ | .deleteStream _ => none

def HasAction : Task → Prop
  | .createRule rule => rule.actions ≠ []
  | _ => True

def HasSource : Task → Prop
  | .createRule rule => Namespace.HasSource rule.sql
  | _ => True

variable {task : Task}

theorem plan_channel_of_hasAction (h : task.HasAction) (settings : Settings) (user : String) :
    (task.plan settings user).channel = .ok task.channel? := by
  cases task with
  | createRule rule =>
    obtain ⟨id, sql, actions⟩ := rule
    cases actions with
    | nil => exact absurd rfl h
    | cons action rest => rfl
  | _ => rfl

theorem plan_channel_of_not_hasAction (h : ¬ task.HasAction) (settings : Settings)
    (user : String) :
    (task.plan settings user).channel = .error (.refusal .noActions none) := by
  cases task with
  | createRule rule =>
    have ha : rule.actions = [] := Decidable.not_not.mp h
    show ruleChannel rule.actions = _
    rw [ha]
    rfl
  | _ => exact absurd trivial h

theorem channel?_of_not_hasAction (h : ¬ task.HasAction) : task.channel? = none := by
  cases task with
  | createRule rule =>
    have ha : rule.actions = [] := Decidable.not_not.mp h
    simp [channel?, ha]
  | _ => exact absurd trivial h

theorem hasAction_of_channel? {id : String} (h : task.channel? = some id) : task.HasAction := by
  by_contra ha
  rw [channel?_of_not_hasAction ha] at h
  cases h

theorem exists_plan_request_iff (settings : Settings) (user : String) :
    (∃ r, (task.plan settings user).request = .ok r) ↔ task.HasSource := by
  cases task with
  | createRule rule =>
    show (∃ r, ruleRequest user rule = .ok r) ↔ Namespace.HasSource rule.sql
    rw [← exists_qualifyQuery_iff user, ruleRequest]
    cases qualifyQuery user rule.sql <;> simp [Except.map]
  | _ => exact ⟨fun _ => trivial, fun _ => ⟨_, rfl⟩⟩

end Task

namespace Services

variable {κ : Type} (s : Services κ)

theorem map_send (c : Change) (r : EngineRequest) :
    Product.result <$> s.send c r =
      s.engine r >>= fun answer =>
        Run.ofOutcome ((report c.name c.expected answer).map .result) := by
  simp only [send, map_bind, Run.map_ofOutcome]

/-- Every task takes the same course. -/
theorem perform_eq_follow (settings : Settings) (token : String) (task : Task) :
    s.perform settings token task =
      s.caller token >>= fun user => (task.plan settings user.id).follow s token := by
  cases task with
  | createStream name topic row =>
    simp [perform, createStream, Task.plan, Plan.change, Plan.follow, Plan.consult, map_bind,
      map_send, Run.ofOutcome_ok]
  | updateStream name topic row =>
    simp [perform, updateStream, Task.plan, Plan.change, Plan.follow, Plan.consult, map_bind,
      map_send, Run.ofOutcome_ok]
  | listStreams =>
    simp [perform, listStreams, Task.plan, Plan.follow, Plan.consult, map_bind, Run.ofOutcome_ok]
  | viewStream name =>
    simp [perform, viewStream, Task.plan, Plan.follow, Plan.consult, map_bind, Run.ofOutcome_ok]
  | deleteStream name =>
    simp [perform, deleteStream, Task.plan, Plan.change, Plan.follow, Plan.consult, map_bind,
      map_send, Run.ofOutcome_ok]
  | createRule rule =>
    obtain ⟨id, sql, actions⟩ := rule
    simp only [perform, createRule, Task.plan, Plan.change, Plan.follow, map_bind]
    congr 1
    funext user
    cases actions with
    | nil => rfl
    | cons action rest =>
      simp only [Task.ruleChannel, Task.ruleRequest, Plan.consult, Run.ofOutcome_ok, pure_bind,
        map_bind, bind_map_left, map_send]
      congr 1
      funext _
      cases qualifyQuery user.id sql <;> rfl

end Services

end TenantGateway
