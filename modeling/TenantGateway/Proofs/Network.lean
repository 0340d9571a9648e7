import TenantGateway.Proofs.Authorization
import TenantGateway.Proofs.Disclosure

/-! # Calls that questions come to

Services may make any calls to answer a question. An operation's calls are those its questions come
to, one question after the other, and its outcome depends only on the answers. So what holds of the
questions of an operation holds of its calls over the network.
-/
namespace TenantGateway

section Course

variable {b : Behaviour} {settings : Settings} {token : String} {task : Task}
  {run : Run Question Product} {user : Identity}

theorem Course.outcome_of_engine_mem (h : Course b settings token task run)
    {request : EngineRequest} (hu : b.identify token = .ok user)
    (hr : .engine request ∈ run.calls) :
    run.outcome = b.engine request >>= (task.plan settings user.id).conclude := by
  cases h with
  | unknown | idle | barred => simp at hr
  | refused => simp [engine_notMem_channelQuestion] at hr
  | sent hi =>
    obtain rfl := engine_mem_sent_iff.mp hr
    cases hu.symm.trans hi
    rfl

theorem Course.outcome_of_idle (h : Course b settings token task run)
    (hu : b.identify token = .ok user) (ha : ¬ task.HasAction) :
    run.outcome = .error (.refusal .noActions none) := by
  cases h with
  | unknown hi => cases hu.symm.trans hi
  | idle => rfl
  | barred _ hn | refused _ hn | sent _ hn => exact absurd hn ha

theorem Course.outcome_of_refused (h : Course b settings token task run)
    (hu : b.identify token = .ok user) (ha : task.HasAction) (hc : b.Admits token task) {f : Fault}
    (hr : (task.plan settings user.id).request = .error f) : run.outcome = .error f := by
  cases h with
  | unknown hi => cases hu.symm.trans hi
  | idle _ hn => exact absurd ha hn
  | barred _ _ hid hf =>
    obtain ⟨v, hv⟩ := hc _ hid
    cases hf.symm.trans hv
  | refused hi _ _ hp =>
    cases hu.symm.trans hi
    cases hr.symm.trans hp
    rfl
  | sent hi _ _ hp =>
    cases hu.symm.trans hi
    cases hr.symm.trans hp

theorem Course.eq_of_sent (h : Course b settings token task run)
    (hu : b.identify token = .ok user) (ha : task.HasAction) (hc : b.Admits token task)
    {request : EngineRequest} (hr : (task.plan settings user.id).request = .ok request) :
    run = ⟨.identity token :: (channelQuestion token task ++ [.engine request]),
      b.engine request >>= (task.plan settings user.id).conclude⟩ := by
  cases h with
  | unknown hi => cases hu.symm.trans hi
  | idle _ hn => exact absurd ha hn
  | barred _ _ hid hf =>
    obtain ⟨v, hv⟩ := hc _ hid
    cases hf.symm.trans hv
  | refused hi _ _ hp =>
    cases hu.symm.trans hi
    cases hr.symm.trans hp
  | sent hi _ _ hp =>
    cases hu.symm.trans hi
    cases hr.symm.trans hp
    rfl

end Course

theorem Behaviour.admits_of_no_channel (b : Behaviour) (token : String) {task : Task}
    (h : task.channel? = none) : b.Admits token task := by
  intro id hid
  rw [h] at hid
  cases hid

theorem Behaviour.admits_of_found {b : Behaviour} {token id : String} {task : Task} {found : Json}
    (hid : task.channel? = some id) (hfound : b.channel id token = .ok found) :
    b.Admits token task := by
  intro other hother
  cases hid.symm.trans hother
  exact ⟨found, hfound⟩

/-- A run that asks as another one does, each question by the calls it comes to. -/
structure Run.Through {κ α : Type} (asked : Question → List κ) (r : Run κ α)
    (q : Run Question α) : Prop where
  calls : r.calls = q.calls.flatMap asked
  outcome : r.outcome = q.outcome

namespace Run.Through

variable {κ α β : Type} {asked : Question → List κ} {r : Run κ α} {q : Run Question α}

theorem ofOutcome (outcome : Except Fault α) :
    Run.Through asked (.ofOutcome outcome) (.ofOutcome outcome) := ⟨rfl, rfl⟩

theorem mapFault (h : Run.Through asked r q) (translate : Fault → Fault) :
    Run.Through asked (r.mapFault translate) (q.mapFault translate) := by
  refine ⟨h.calls, ?_⟩
  rw [Run.outcome_mapFault, Run.outcome_mapFault, h.outcome]

theorem bind {next : α → Run κ β} {last : α → Run Question β} (h : Run.Through asked r q)
    (hn : ∀ a, Run.Through asked (next a) (last a)) :
    Run.Through asked (r >>= next) (q >>= last) := by
  cases ho : q.outcome with
  | error f =>
    rw [Run.bind_of_error (h.outcome.trans ho), Run.bind_of_error ho]
    exact ⟨h.calls, rfl⟩
  | ok a =>
    rw [Run.bind_of_ok (h.outcome.trans ho), Run.bind_of_ok ho]
    refine ⟨?_, (hn a).outcome⟩
    rw [List.flatMap_append, h.calls, (hn a).calls]

theorem map (h : Run.Through asked r q) (f : α → β) : Run.Through asked (f <$> r) (f <$> q) := by
  rw [← bind_pure_comp, ← bind_pure_comp]
  exact h.bind fun a => ofOutcome (.ok (f a))

end Run.Through

namespace Services

variable {κ : Type} (s : Services κ)

def behaviour : Behaviour where
  identify token := (s.identify token).outcome
  channel id token := (s.channel id token).outcome
  engine request := (s.engine request).outcome

/-- The calls that a question comes to. -/
def asked : Question → List κ
  | .identity token => (s.identify token).calls
  | .channel id token => (s.channel id token).calls
  | .engine request => (s.engine request).calls

variable (settings : Settings) (token : String) (task : Task)

def questions : List Question := (s.behaviour.services.perform settings token task).calls

theorem identify_through :
    Run.Through s.asked (s.identify token) (s.behaviour.services.identify token) :=
  ⟨(List.append_nil _).symm, rfl⟩

theorem channel_through (id : String) :
    Run.Through s.asked (s.channel id token) (s.behaviour.services.channel id token) :=
  ⟨(List.append_nil _).symm, rfl⟩

theorem engine_through (request : EngineRequest) :
    Run.Through s.asked (s.engine request) (s.behaviour.services.engine request) :=
  ⟨(List.append_nil _).symm, rfl⟩

theorem consult_through (channel : Option String) :
    Run.Through s.asked (Plan.consult s token channel)
      (Plan.consult s.behaviour.services token channel) := by
  cases channel with
  | none => exact .ofOutcome (.ok ())
  | some id => exact ((s.channel_through token id).mapFault channelFault).map _

theorem follow_through (plan : Plan) :
    Run.Through s.asked (plan.follow s token) (plan.follow s.behaviour.services token) := by
  refine (Run.Through.ofOutcome plan.channel).bind fun channel => ?_
  refine (s.consult_through token channel).bind fun _ => ?_
  refine (Run.Through.ofOutcome plan.request).bind fun request => ?_
  exact (s.engine_through request).bind fun answer => .ofOutcome (plan.conclude answer)

theorem perform_through :
    Run.Through s.asked (s.perform settings token task)
      (s.behaviour.services.perform settings token task) := by
  rw [perform_eq_follow, perform_eq_follow]
  exact ((s.identify_through token).mapFault tokenFault).bind fun user =>
    s.follow_through token (task.plan settings user.id)

theorem calls_perform :
    (s.perform settings token task).calls = (s.questions settings token task).flatMap s.asked :=
  (s.perform_through settings token task).calls

theorem outcome_perform :
    (s.perform settings token task).outcome =
      (s.behaviour.services.perform settings token task).outcome :=
  (s.perform_through settings token task).outcome

variable {s settings token task}

theorem engine_mem_questions_iff {user : Identity} (hu : (s.identify token).outcome = .ok user)
    {request : EngineRequest} :
    .engine request ∈ s.questions settings token task ↔
      s.behaviour.Admits token task ∧ task.HasAction ∧
        (task.plan settings user.id).request = .ok request := by
  have h := perform_course s.behaviour settings token task
  constructor
  · intro hr
    obtain ⟨-, hc, ha, -⟩ := h.engine_mem_iff.mp ⟨request, hr⟩
    exact ⟨hc, ha, h.plan_of_engine_mem hu hr⟩
  · rintro ⟨hc, ha, hr⟩
    have hs : task.HasSource := (Task.exists_plan_request_iff settings user.id).mp ⟨request, hr⟩
    obtain ⟨sent, hm⟩ := h.engine_mem_iff.mpr ⟨⟨user, hu⟩, hc, ha, hs⟩
    cases (h.plan_of_engine_mem hu hm).symm.trans hr
    exact hm

/-- Of a plan with a request, the engine is asked that one. -/
theorem engine_mem_questions_iff_of_plan {user : Identity} (task : Task)
    (hu : (s.identify token).outcome = .ok user) (ha : task.HasAction) {sent : EngineRequest}
    (hp : (task.plan settings user.id).request = .ok sent) {request : EngineRequest} :
    .engine request ∈ s.questions settings token task ↔
      s.behaviour.Admits token task ∧ request = sent := by
  rw [engine_mem_questions_iff hu, hp, Except.ok.injEq, eq_comm (a := sent)]
  simp only [ha, true_and]

theorem engine_mem_questions_iff_of_no_channel {user : Identity} (task : Task)
    (hu : (s.identify token).outcome = .ok user) (ha : task.HasAction) (hc : task.channel? = none)
    {sent : EngineRequest} (hp : (task.plan settings user.id).request = .ok sent)
    {request : EngineRequest} :
    .engine request ∈ s.questions settings token task ↔ request = sent := by
  rw [engine_mem_questions_iff_of_plan task hu ha hp]
  exact and_iff_right (s.behaviour.admits_of_no_channel token hc)

/-- What a known caller's operation comes to is made of the engine's answer. -/
theorem outcome_of_answer {user : Identity} (hu : (s.identify token).outcome = .ok user)
    {request : EngineRequest} (hr : .engine request ∈ s.questions settings token task) :
    (s.perform settings token task).outcome =
      (s.engine request).outcome >>= (task.plan settings user.id).conclude := by
  rw [outcome_perform]
  exact (perform_course s.behaviour settings token task).outcome_of_engine_mem hu hr

end Services

section Network

variable {settings : Settings} {who : Identifier} {channels : String → Except Fault Response}
  {engine : EngineRequest → Except Fault Response} {token : String} {task : Task}

theorem calls_lookup (id : String) :
    (Channels.lookup settings channels id token).calls =
      if id = "" then []
      else [.channel (Channels.url settings id) ("Bearer " ++ token) settings.timeout] := by
  by_cases h : id = "" <;> simp [Channels.lookup, h]

theorem engine_call_mem_iff {verb : Verb} {url : String} {body : Option Json}
    {timeout : Binary64} :
    .engine verb url body timeout ∈
        ((Services.overNetwork settings who.identify channels engine).perform
          settings token task).calls ↔
      ∃ request, .engine request ∈
          (Services.overNetwork settings who.identify channels engine).questions
            settings token task ∧
        Call.engine verb url body timeout =
          .engine request.verb (Engine.url settings request.path) request.body
            settings.timeout := by
  rw [Services.calls_perform, List.mem_flatMap]
  constructor
  · rintro ⟨question, hq, hm⟩
    cases question with
    | identity t => cases who.apart t _ hm
    | channel id t =>
      change _ ∈ (Channels.lookup settings channels id t).calls at hm
      rw [calls_lookup] at hm
      split at hm
      · cases hm
      · cases List.mem_singleton.mp hm
    | engine request => exact ⟨request, hq, List.mem_singleton.mp hm⟩
  · rintro ⟨request, hq, he⟩
    exact ⟨_, hq, List.mem_singleton.mpr he⟩

end Network

end TenantGateway
