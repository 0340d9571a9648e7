import TenantGateway.Proofs.Plan

/-! # Authorization

What is asked before the engine is. The services may answer anything or fail in any way; whatever
they do, the engine is asked last, once, and only for a caller who is known and may see the channel.
-/
namespace TenantGateway

inductive Question where
  | identity (token : String)
  | channel (id token : String)
  | engine (request : EngineRequest)

structure Behaviour where
  identify : String → Except Fault Identity
  channel : (id token : String) → Except Fault Json
  engine : EngineRequest → Except Fault Response

namespace Behaviour

def services (b : Behaviour) : Services Question where
  identify token := .ask (.identity token) (b.identify token)
  channel id token := .ask (.channel id token) (b.channel id token)
  engine request := .ask (.engine request) (b.engine request)

/-- The channel of a task, if there is one, is found. -/
def Admits (b : Behaviour) (token : String) (task : Task) : Prop :=
  ∀ id, task.channel? = some id → ∃ v, b.channel id token = .ok v

end Behaviour

def channelQuestion (token : String) (task : Task) : List Question :=
  (task.channel?.map (Question.channel · token)).toList

/-- The ways an operation can go. It stops at the first step that fails. -/
inductive Course (b : Behaviour) (settings : Settings) (token : String) (task : Task) :
    Run Question Product → Prop where
  | unknown {f} (hi : b.identify token = .error f) :
      Course b settings token task ⟨[.identity token], .error (Services.tokenFault f)⟩
  | idle {user} (hi : b.identify token = .ok user) (ha : ¬ task.HasAction) :
      Course b settings token task ⟨[.identity token], .error (.refusal .noActions none)⟩
  | barred {user id f} (hi : b.identify token = .ok user) (ha : task.HasAction)
      (hc : task.channel? = some id) (hf : b.channel id token = .error f) :
      Course b settings token task
        ⟨[.identity token, .channel id token], .error (Services.channelFault f)⟩
  | refused {user f} (hi : b.identify token = .ok user) (ha : task.HasAction)
      (hc : b.Admits token task) (hr : (task.plan settings user.id).request = .error f) :
      Course b settings token task ⟨.identity token :: channelQuestion token task, .error f⟩
  | sent {user request} (hi : b.identify token = .ok user) (ha : task.HasAction)
      (hc : b.Admits token task) (hr : (task.plan settings user.id).request = .ok request) :
      Course b settings token task
        ⟨.identity token :: (channelQuestion token task ++ [.engine request]),
          b.engine request >>= (task.plan settings user.id).conclude⟩

section Course

variable {b : Behaviour} {settings : Settings} {token : String} {task : Task}

theorem follow_request (p : Plan) :
    (do
      let request ← Run.ofOutcome p.request
      let answer ← b.services.engine request
      Run.ofOutcome (p.conclude answer) : Run Question Product) =
    match p.request with
    | .error f => ⟨[], .error f⟩
    | .ok request => ⟨[.engine request], b.engine request >>= p.conclude⟩ := by
  cases p.request with
  | error f => rfl
  | ok request =>
    rw [Run.ofOutcome_ok, pure_bind]
    apply Run.ext
    · rw [Run.calls_bind]
      simp only [Behaviour.services, Run.calls_ask, Run.outcome_ask, Run.calls_ofOutcome]
      cases b.engine request <;> rfl
    · rw [Run.outcome_bind]
      rfl

theorem consult_some (id : String) :
    Plan.consult b.services token (some id) =
      ⟨[.channel id token],
        ((b.channel id token).mapError Services.channelFault).map fun _ => ()⟩ := by
  apply Run.ext
  · simp [Plan.consult, Services.checkChannel, Behaviour.services]
  · rw [Plan.consult, ← bind_pure_comp, Run.outcome_bind]
    simp only [Services.checkChannel, Behaviour.services, Run.outcome_mapFault, Run.outcome_ask]
    cases b.channel id token <;> rfl

theorem follow_admitted {p : Plan} (h : p.channel = .ok task.channel?) (hc : b.Admits token task) :
    p.follow b.services token =
      match p.request with
      | .error f => ⟨channelQuestion token task, .error f⟩
      | .ok request =>
        ⟨channelQuestion token task ++ [.engine request], b.engine request >>= p.conclude⟩ := by
  rw [Plan.follow, h, Run.ofOutcome_ok, pure_bind, follow_request]
  cases hid : task.channel? with
  | none =>
    rw [Plan.consult, pure_bind, channelQuestion, hid]
    rfl
  | some id =>
    obtain ⟨v, hv⟩ := hc id hid
    rw [consult_some, hv, Run.bind_of_ok rfl, channelQuestion, hid]
    cases p.request <;> rfl

theorem follow_barred {p : Plan} {id : String} {f : Fault} (h : p.channel = .ok (some id))
    (hf : b.channel id token = .error f) :
    p.follow b.services token = ⟨[.channel id token], .error (Services.channelFault f)⟩ := by
  rw [Plan.follow, h, Run.ofOutcome_ok, pure_bind, consult_some, hf, Run.bind_of_error rfl]

theorem perform_course (b : Behaviour) (settings : Settings) (token : String) (task : Task) :
    Course b settings token task (b.services.perform settings token task) := by
  rw [Services.perform_eq_follow]
  cases hi : b.identify token with
  | error f =>
    have ho : (b.services.caller token).outcome = .error (Services.tokenFault f) := by
      simp [Services.caller, Behaviour.services, hi]
    rw [Run.bind_of_error ho]
    exact .unknown hi
  | ok user =>
    have ho : (b.services.caller token).outcome = .ok user := by
      simp [Services.caller, Behaviour.services, hi]
    rw [Run.bind_of_ok ho]
    show Course b settings token task ⟨.identity token :: (Plan.follow _ _ _).calls, _⟩
    by_cases ha : task.HasAction
    · have hp := Task.plan_channel_of_hasAction ha settings user.id
      by_cases hc : b.Admits token task
      · rw [follow_admitted hp hc]
        cases hr : (task.plan settings user.id).request with
        | error f => exact .refused hi ha hc hr
        | ok request => exact .sent hi ha hc hr
      · obtain ⟨id, hid, hn⟩ :
            ∃ id, task.channel? = some id ∧ ¬ ∃ v, b.channel id token = .ok v := by
          simpa only [Behaviour.Admits, not_forall, exists_prop] using hc
        cases hf : b.channel id token with
        | ok v => exact absurd ⟨v, hf⟩ hn
        | error f =>
          rw [hid] at hp
          rw [follow_barred hp hf]
          exact .barred hi ha hid hf
    · have hp := Task.plan_channel_of_not_hasAction ha settings user.id
      rw [Plan.follow, hp, Run.bind_of_error rfl]
      exact .idle hi ha

variable {run : Run Question Product}

theorem Course.calls_in_order (h : Course b settings token task run) :
    ∃ request,
      run.calls <+: .identity token :: (channelQuestion token task ++ [.engine request]) := by
  cases h with
  | unknown | idle => exact ⟨⟨.get, "", none⟩, by simp⟩
  | barred _ _ hc _ => exact ⟨⟨.get, "", none⟩, by simp [channelQuestion, hc]⟩
  | refused => exact ⟨⟨.get, "", none⟩, by simp⟩
  | @sent _ request => exact ⟨request, List.prefix_rfl⟩

theorem Course.identity_first (h : Course b settings token task run) :
    run.calls.head? = some (.identity token) := by
  cases h <;> rfl

theorem engine_notMem_channelQuestion (request : EngineRequest) :
    .engine request ∉ channelQuestion token task := by
  simp [channelQuestion]

theorem engine_mem_sent_iff {request sent : EngineRequest} :
    .engine request ∈ .identity token :: (channelQuestion token task ++ [.engine sent]) ↔
      request = sent := by
  simp [engine_notMem_channelQuestion]

theorem channel_mem_channelQuestion_iff {id t : String} :
    .channel id t ∈ channelQuestion token task ↔ t = token ∧ task.channel? = some id := by
  cases hc : task.channel? <;> simp [channelQuestion, hc, eq_comm, and_comm]

theorem Course.engine_mem_iff (h : Course b settings token task run) :
    (∃ request, .engine request ∈ run.calls) ↔
      (∃ user, b.identify token = .ok user) ∧ b.Admits token task ∧ task.HasAction ∧
        task.HasSource := by
  cases h with
  | unknown hi => simp [hi]
  | idle hi ha => simp [ha]
  | barred hi ha hc hf =>
    simp only [List.mem_cons, reduceCtorEq, List.not_mem_nil, or_self, exists_false, false_iff]
    rintro ⟨-, hadmits, -⟩
    obtain ⟨v, hv⟩ := hadmits _ hc
    rw [hf] at hv
    cases hv
  | @refused user f hi ha hc hr =>
    have hs : ¬ task.HasSource := by
      rw [← Task.exists_plan_request_iff settings user.id, hr]
      rintro ⟨_, h⟩
      cases h
    simp [engine_notMem_channelQuestion, hs]
  | @sent user request hi ha hc hr =>
    have hs : task.HasSource := (Task.exists_plan_request_iff settings user.id).mp ⟨request, hr⟩
    exact ⟨fun _ => ⟨⟨user, hi⟩, hc, ha, hs⟩, fun _ => ⟨request, by simp⟩⟩

theorem Course.channel_mem_iff (h : Course b settings token task run) (id t : String) :
    .channel id t ∈ run.calls ↔
      (∃ user, b.identify token = .ok user) ∧ t = token ∧ task.channel? = some id := by
  cases h with
  | unknown hi => simp [hi]
  | idle hi ha => simp [Task.channel?_of_not_hasAction ha]
  | barred hi ha hc hf => simp [hi, hc, eq_comm, and_comm]
  | refused hi ha hc hr => simp [hi, channel_mem_channelQuestion_iff]
  | sent hi ha hc hr => simp [hi, channel_mem_channelQuestion_iff]

theorem Course.plan_of_engine_mem (h : Course b settings token task run) {user : Identity}
    {request : EngineRequest} (hu : b.identify token = .ok user)
    (hr : .engine request ∈ run.calls) :
    (task.plan settings user.id).request = .ok request := by
  cases h with
  | unknown | idle | barred => simp at hr
  | refused => simp [engine_notMem_channelQuestion] at hr
  | sent hi _ _ hp =>
    obtain rfl := engine_mem_sent_iff.mp hr
    cases hu.symm.trans hi
    exact hp

theorem Course.outcome_of_unknown (h : Course b settings token task run) {f : Fault}
    (hf : b.identify token = .error f) : run.outcome = .error (Services.tokenFault f) := by
  cases h with
  | unknown hi =>
    rw [hf] at hi
    cases hi
    rfl
  | idle hi | barred hi | refused hi | sent hi =>
    rw [hf] at hi
    cases hi

theorem Course.outcome_of_barred (h : Course b settings token task run) {user : Identity}
    {id : String} {f : Fault} (hu : b.identify token = .ok user) (hid : task.channel? = some id)
    (hf : b.channel id token = .error f) : run.outcome = .error (Services.channelFault f) := by
  cases h with
  | unknown hi =>
    rw [hu] at hi
    cases hi
  | idle _ ha =>
    rw [Task.channel?_of_not_hasAction ha] at hid
    cases hid
  | barred _ _ hc hg =>
    cases hid.symm.trans hc
    cases hf.symm.trans hg
    rfl
  | refused _ _ hc | sent _ _ hc =>
    obtain ⟨v, hv⟩ := hc id hid
    rw [hf] at hv
    cases hv

theorem Course.outcome_of_unanswered (h : Course b settings token task run)
    {request : EngineRequest} {f : Fault} (hr : .engine request ∈ run.calls)
    (hf : b.engine request = .error f) : run.outcome = .error f := by
  cases h with
  | unknown | idle | barred => simp at hr
  | refused => simp [engine_notMem_channelQuestion] at hr
  | sent =>
    obtain rfl := engine_mem_sent_iff.mp hr
    rw [hf]
    rfl

end Course

/-- A failure in place of an answer: it is the caller's lack of authority if it is a refusal, and
else it is passed on. -/
def Reported (refused : Fault → Prop) (f : Fault) (outcome : Except Fault Product) : Prop :=
  (refused f → outcome = .error (.refusal .unauthorized (some f))) ∧
    (¬ refused f → outcome = .error f)

theorem reported_tokenFault (f : Fault) :
    Reported (fun f => ∃ reason cause, f = .token reason cause) f
      (.error (Services.tokenFault f)) := by
  cases f <;> simp [Reported, Services.tokenFault]

theorem reported_channelFault (f : Fault) :
    Reported (fun f => ∃ reason cause, f = .channel reason cause) f
      (.error (Services.channelFault f)) := by
  cases f <;> simp [Reported, Services.channelFault]

/-- What is promised of the questions and the failures of an operation. -/
structure Orderly (b : Behaviour) (token : String) (task : Task) (run : Run Question Product) :
    Prop where
  /-- In order, none twice. -/
  in_order : ∃ request,
    run.calls <+: .identity token ::
      ((task.channel?.map (Question.channel · token)).toList ++ [.engine request])
  identity_first : run.calls.head? = some (.identity token)
  channel_asked : ∀ id t, .channel id t ∈ run.calls ↔
    (∃ user, b.identify token = .ok user) ∧ t = token ∧ task.channel? = some id
  engine_asked : (∃ request, .engine request ∈ run.calls) ↔
    (∃ user, b.identify token = .ok user) ∧ b.Admits token task ∧ task.HasAction ∧ task.HasSource
  identity_failed : ∀ f, b.identify token = .error f →
    Reported (fun f => ∃ reason cause, f = .token reason cause) f run.outcome
  channel_failed : ∀ user id f, b.identify token = .ok user → task.channel? = some id →
    b.channel id token = .error f →
    Reported (fun f => ∃ reason cause, f = .channel reason cause) f run.outcome
  engine_failed : ∀ request f, .engine request ∈ run.calls → b.engine request = .error f →
    run.outcome = .error f

/-- Every operation asks the services in order, whatever they do. -/
theorem perform_orderly (b : Behaviour) (settings : Settings) (token : String) (task : Task) :
    Orderly b token task (b.services.perform settings token task) := by
  have h := perform_course b settings token task
  constructor
  · exact h.calls_in_order
  · exact h.identity_first
  · exact h.channel_mem_iff
  · exact h.engine_mem_iff
  · intro f hf
    rw [h.outcome_of_unknown hf]
    exact reported_tokenFault f
  · intro user id f hu hid hf
    rw [h.outcome_of_barred hu hid hf]
    exact reported_channelFault f
  · intro request f hr hf
    exact h.outcome_of_unanswered hr hf

end TenantGateway
