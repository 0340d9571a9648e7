import TenantGateway.Proofs.Identification
import TenantGateway.Proofs.Plan

/-! # Disclosure

What of a caller gets to the engine. Two callers whose identities differ only in hyphens are one to
it, whatever else their tokens say and whatever is found out about the channels they name. Nor can
they tell themselves apart by what they are answered.
-/
namespace TenantGateway

open Namespace Response Text

namespace Call

def isIdentification : Call → Bool
  | .identity _ | .signingKey => true
  | _ => false

def isChannel : Call → Bool
  | .channel .. => true
  | _ => false

def isEngine : Call → Bool
  | .engine .. => true
  | _ => false

/-- A call without the token that it carries to the channels. -/
def anonymous : Call → Call
  | .channel url _ timeout => .channel url "" timeout
  | call => call

theorem isEngine_anonymous (call : Call) : call.anonymous.isEngine = call.isEngine := by
  cases call <;> rfl

theorem isChannel_anonymous (call : Call) : call.anonymous.isChannel = call.isChannel := by
  cases call <;> rfl

theorem anonymous_of_isEngine {call : Call} (h : call.isEngine) : call.anonymous = call := by
  cases call <;> first | rfl | cases h

theorem isEngine_of_isIdentification {call : Call} (h : call.isIdentification) :
    call.isEngine = false := by
  cases call <;> first | rfl | cases h

theorem isChannel_of_isIdentification {call : Call} (h : call.isIdentification) :
    call.isChannel = false := by
  cases call <;> first | rfl | cases h

theorem filter_isEngine_anonymous (calls : List Call) :
    (calls.map anonymous).filter isEngine = calls.filter isEngine := by
  induction calls with
  | nil => rfl
  | cons call rest ih =>
    by_cases h : call.isEngine
    · simp [anonymous_of_isEngine, h, ih]
    · simp [isEngine_anonymous, h, ih]

theorem filter_isChannel_anonymous (calls : List Call) :
    (calls.map anonymous).filter isChannel = (calls.filter isChannel).map anonymous := by
  rw [List.filter_map]
  congr 2
  funext call
  exact isChannel_anonymous call

end Call

/-- A way to find out who a token belongs to. It asks neither for channels nor anything of the
engine. -/
structure Identifier where
  identify : String → Run Call Identity
  apart : ∀ token, ∀ call ∈ (identify token).calls, call.isIdentification

namespace Identifier

def asking (who : String → Except Fault Identity) : Identifier where
  identify token := .ask (.identity token) (who token)
  apart token call h := by
    rw [List.mem_singleton.mp h]
    rfl

def vouching (authority : Token.Authority) (settings : Settings) : Identifier where
  identify := authority.identify settings
  apart token call h := by
    rw [authority.calls_identify] at h
    split at h
    · cases h
    · rw [List.mem_singleton.mp h]
      rfl

variable (who : Identifier) (token : String)

theorem filter_isEngine : (who.identify token).calls.filter Call.isEngine = [] := by
  rw [List.filter_eq_nil_iff]
  intro call hm
  simp [Call.isEngine_of_isIdentification (who.apart token call hm)]

theorem filter_isChannel : (who.identify token).calls.filter Call.isChannel = [] := by
  rw [List.filter_eq_nil_iff]
  intro call hm
  simp [Call.isChannel_of_isIdentification (who.apart token call hm)]

end Identifier

theorem Task.plan_congr {u v : String} (h : compact u = compact v) (settings : Settings)
    (task : Task) : task.plan settings u = task.plan settings v := by
  cases task with
  | createStream | updateStream | deleteStream => simp only [Task.plan, qualify_congr h]
  | listStreams =>
    simp only [Task.plan, Services.streamNames, unqualifyAll_congr h]
  | viewStream => simp only [Task.plan, qualify_congr h, Services.streamOf, unqualify_congr h]
  | createRule => simp only [Task.plan, ruleRequest, qualify_congr h, qualifyQuery_congr h]

/-- Runs that differ only in the tokens that their calls carry to the channels. -/
structure Run.Like {α : Type} (r s : Run Call α) : Prop where
  calls : r.calls.map Call.anonymous = s.calls.map Call.anonymous
  outcome : r.outcome = s.outcome

namespace Run.Like

variable {α β : Type} {r s : Run Call α}

theorem refl (r : Run Call α) : Run.Like r r := ⟨rfl, rfl⟩

theorem bind {next last : α → Run Call β} (h : Run.Like r s)
    (hn : ∀ a, Run.Like (next a) (last a)) : Run.Like (r >>= next) (s >>= last) := by
  cases ho : r.outcome with
  | error f =>
    have hs : s.outcome = .error f := h.outcome.symm.trans ho
    rw [Run.bind_of_error ho, Run.bind_of_error hs]
    exact ⟨h.calls, rfl⟩
  | ok a =>
    have hs : s.outcome = .ok a := h.outcome.symm.trans ho
    rw [Run.bind_of_ok ho, Run.bind_of_ok hs]
    refine ⟨?_, (hn a).outcome⟩
    rw [List.map_append, List.map_append, h.calls, (hn a).calls]

end Run.Like

def Alike : Except Fault Json → Except Fault Json → Prop
  | .ok _, .ok _ => True
  | .error f, .error g => f = g
  | _, _ => False

section Network

variable {settings : Settings} {who other : Identifier}
  {channels sources : String → Except Fault Response}
  {engine : EngineRequest → Except Fault Response} {token secret : String}

theorem lookup_calls (id : String) :
    (Channels.lookup settings channels id token).calls.map Call.anonymous =
      (Channels.lookup settings sources id secret).calls.map Call.anonymous := by
  by_cases h : id = "" <;> simp [Channels.lookup, h, Call.anonymous]

theorem consult_like {channel : Option String}
    (h : ∀ id, channel = some id →
      Alike (Channels.lookup settings channels id token).outcome
        (Channels.lookup settings sources id secret).outcome) :
    Run.Like
      (Plan.consult (.overNetwork settings who.identify channels engine) token channel)
      (Plan.consult (.overNetwork settings other.identify sources engine) secret channel) := by
  cases channel with
  | none => exact .refl _
  | some id =>
    refine ⟨?_, ?_⟩
    · simp only [Plan.consult, Run.calls_map]
      exact lookup_calls id
    · have hid := h id rfl
      simp only [Plan.consult, ← bind_pure_comp, Run.outcome_bind, Services.checkChannel,
        Services.overNetwork, Run.outcome_mapFault]
      generalize (Channels.lookup settings channels id token).outcome = x at hid
      generalize (Channels.lookup settings sources id secret).outcome = y at hid
      cases x <;> cases y <;> first | rfl | cases hid
      rfl

theorem follow_like {plan : Plan} {channel : Option String}
    (hp : plan.channel = .ok channel ∨ ∃ f, plan.channel = .error f)
    (h : ∀ id, channel = some id →
      Alike (Channels.lookup settings channels id token).outcome
        (Channels.lookup settings sources id secret).outcome) :
    Run.Like
      (plan.follow (.overNetwork settings who.identify channels engine) token)
      (plan.follow (.overNetwork settings other.identify sources engine) secret) := by
  rcases hp with hp | ⟨f, hp⟩
  · simp only [Plan.follow, hp, Run.ofOutcome_ok, pure_bind]
    exact (consult_like h).bind fun _ => .refl _
  · simp only [Plan.follow, hp]
    exact .refl _

theorem perform_of_known {user : Identity} (hu : (who.identify token).outcome = .ok user)
    (task : Task) :
    (Services.overNetwork settings who.identify channels engine).perform settings token task =
      ⟨(who.identify token).calls ++ ((task.plan settings user.id).follow
          (.overNetwork settings who.identify channels engine) token).calls,
        ((task.plan settings user.id).follow
          (.overNetwork settings who.identify channels engine) token).outcome⟩ := by
  have ho : ((Services.overNetwork settings who.identify channels engine).caller token).outcome =
      .ok user := by
    simp [Services.caller, Services.overNetwork, hu]
  rw [Services.perform_eq_follow, Run.bind_of_ok ho]
  rfl

/-- The plan of a task that is followed for either of two callers who are one to the engine. -/
theorem follow_plan_like (who other : Identifier)
    (engine : EngineRequest → Except Fault Response) {user twin : Identity} {task : Task}
    (hid : compact user.id = compact twin.id)
    (hc : ∀ id, task.channel? = some id →
      Alike (Channels.lookup settings channels id token).outcome
        (Channels.lookup settings sources id secret).outcome) :
    Run.Like
      ((task.plan settings user.id).follow
        (.overNetwork settings who.identify channels engine) token)
      ((task.plan settings twin.id).follow
        (.overNetwork settings other.identify sources engine) secret) := by
  rw [← Task.plan_congr hid]
  refine follow_like ?_ hc
  by_cases ha : task.HasAction
  · exact .inl (Task.plan_channel_of_hasAction ha settings user.id)
  · exact .inr ⟨_, Task.plan_channel_of_not_hasAction ha settings user.id⟩

/-- Callers whose identities agree but for hyphens, and whose look-ups end alike, have the engine
asked the same and get the same. To the channels they differ by their tokens alone. -/
theorem compact_identity_disclosure {user twin : Identity} {task : Task}
    (hu : (who.identify token).outcome = .ok user)
    (ht : (other.identify secret).outcome = .ok twin)
    (hid : compact user.id = compact twin.id)
    (hc : ∀ id, task.channel? = some id →
      Alike (Channels.lookup settings channels id token).outcome
        (Channels.lookup settings sources id secret).outcome) :
    let run := (Services.overNetwork settings who.identify channels engine).perform
      settings token task
    let shadow := (Services.overNetwork settings other.identify sources engine).perform
      settings secret task
    run.calls.filter Call.isEngine = shadow.calls.filter Call.isEngine ∧
      run.outcome = shadow.outcome ∧
      (run.calls.filter Call.isChannel).map Call.anonymous =
        (shadow.calls.filter Call.isChannel).map Call.anonymous := by
  intro run shadow
  have hl := follow_plan_like who other engine hid hc
  have hr : run = _ := perform_of_known hu task
  have hs : shadow = _ := perform_of_known ht task
  rw [hr, hs]
  refine ⟨?_, hl.outcome, ?_⟩
  · simp only [List.filter_append, Identifier.filter_isEngine, List.nil_append]
    rw [← Call.filter_isEngine_anonymous, hl.calls, Call.filter_isEngine_anonymous]
  · simp only [List.filter_append, Identifier.filter_isChannel, List.nil_append]
    rw [← Call.filter_isChannel_anonymous, hl.calls, Call.filter_isChannel_anonymous]

end Network

theorem Response.charset?_empty : Response.charset? "" = none := by
  have hk : String.ofList (strip isBlank ("".toList.takeWhile (· != ';'))) = "" := rfl
  have hp : parameters "" = [] := by
    rw [parameters, splitOn_empty (by decide)]
    rfl
  have hm : ∀ part, part ≠ "" → mentions part "" = false := by
    intro part h
    rw [mentions, splitOn_empty h]
    rfl
  simp only [charset?, hk, hp, hm "text" (by decide), hm "application/json" (by decide)]
  rfl

namespace Twins

def who : Identifier :=
  .asking fun token => .ok (if token = "t" then ⟨"ab-c", some "c@ab"⟩ else ⟨"a-bc", none⟩)

def found (body : Bytes) (_ : String) : Except Fault Response := .ok ⟨200, "", .ok body⟩

def accepting (_ : EngineRequest) : Except Fault Response := .ok ⟨201, "", .ok []⟩

def creation : Task := .createStream "rain" "c" "level float"

def run (body : Bytes) (token : String) : Run Call Product :=
  (Services.overNetwork .usual who.identify (found body) accepting).perform .usual token creation

theorem outcome_lookup (body : Bytes) (token : String) :
    (Channels.lookup .usual (found body) "c" token).outcome =
      Channels.judge "c" ⟨200, "", .ok body⟩ := by
  rw [Channels.lookup, if_neg (by decide)]
  rfl

theorem lookups_alike :
    Alike (Channels.lookup .usual (found [0x7B, 0x7D]) "c" "t").outcome
      (Channels.lookup .usual (found [0x30]) "c" "s").outcome := by
  have hfirst : Channels.judge "c" ⟨200, "", .ok [0x7B, 0x7D]⟩ = .ok (.obj []) := by
    simp only [Channels.judge, json, plainJson?, text, charset?_empty]
    rfl
  have hsecond : Channels.judge "c" ⟨200, "", .ok [0x30]⟩ = .ok (.int 0) := by
    simp only [Channels.judge, json, plainJson?, text, charset?_empty]
    rfl
  rw [outcome_lookup, outcome_lookup, hfirst, hsecond]
  trivial

theorem indistinguishable :
    (who.identify "t").outcome = .ok ⟨"ab-c", some "c@ab"⟩ ∧
      (who.identify "s").outcome = .ok ⟨"a-bc", none⟩ ∧
      compact "ab-c" = compact "a-bc" ∧ creation.channel? = some "c" ∧
      Alike (Channels.lookup .usual (found [0x7B, 0x7D]) "c" "t").outcome
        (Channels.lookup .usual (found [0x30]) "c" "s").outcome ∧
      (run [0x7B, 0x7D] "t").calls.filter Call.isEngine =
        (run [0x30] "s").calls.filter Call.isEngine ∧
      (run [0x7B, 0x7D] "t").outcome = (run [0x30] "s").outcome ∧
      ((run [0x7B, 0x7D] "t").calls.filter Call.isChannel).map Call.anonymous =
        ((run [0x30] "s").calls.filter Call.isChannel).map Call.anonymous := by
  have hid : compact "ab-c" = compact "a-bc" := by simp [compact]
  have hc : ∀ id, creation.channel? = some id →
      Alike (Channels.lookup .usual (found [0x7B, 0x7D]) id "t").outcome
        (Channels.lookup .usual (found [0x30]) id "s").outcome := by
    rintro _ ⟨rfl⟩
    exact lookups_alike
  exact ⟨rfl, rfl, hid, rfl, lookups_alike, compact_identity_disclosure rfl rfl hid hc⟩

end Twins

end TenantGateway
