import TenantGateway.Proofs.Answers
import TenantGateway.Proofs.Network

/-! # Containment of faults

Faults of the network that come through to a caller. An operation should end with a value or with
one of the gateway's own errors, whatever becomes of its exchanges. It does but for some bodies that
cannot be read, and these are all.
-/
namespace TenantGateway

open Namespace

def Fault.IsRefusal (f : Fault) : Prop := ∃ reason cause, f = .refusal reason cause

def Fault.IsReading : Fault → Prop
  | .transport _ _ | .undecodable _ => True
  | _ => False

/-- There is no fault but such as `p` says. -/
def FailsOnly {α : Type} (p : Fault → Prop) (outcome : Except Fault α) : Prop :=
  ∀ f, outcome = .error f → p f

/-- A fault that ends an operation and is none of the gateway's own. -/
def Escapes {α : Type} (f : Fault) (outcome : Except Fault α) : Prop :=
  outcome = .error f ∧ ¬ f.IsRefusal

section Escapes

variable {α β : Type} {f : Fault}

theorem not_escapes_ok (a : α) : ¬ Escapes f (.ok a : Except Fault α) := fun h => nomatch h.1

theorem not_escapes_refusal (reason : Refusal) (cause : Option Fault) :
    ¬ Escapes f (.error (.refusal reason cause) : Except Fault α) := by
  rintro ⟨⟨⟩, hn⟩
  exact hn ⟨reason, cause, rfl⟩

theorem escapes_error_iff {g : Fault} (h : ¬ g.IsRefusal) :
    Escapes f (.error g : Except Fault α) ↔ g = f := by
  constructor
  · rintro ⟨⟨⟩, -⟩
    rfl
  · rintro rfl
    exact ⟨rfl, h⟩

theorem escapes_map {x : Except Fault α} {g : α → β} : Escapes f (x.map g) ↔ Escapes f x := by
  rw [Escapes, Escapes, Except.map_eq_error_iff]

theorem escapes_bind {x : Except Fault α} {next : α → Except Fault β} :
    Escapes f (x >>= next) ↔ Escapes f x ∨ ∃ a, x = .ok a ∧ Escapes f (next a) := by
  simp only [Escapes, Except.bind_eq_error_iff]
  constructor
  · rintro ⟨hx | ⟨a, ha, hn⟩, hf⟩
    · exact .inl ⟨hx, hf⟩
    · exact .inr ⟨a, ha, hn, hf⟩
  · rintro (⟨hx, hf⟩ | ⟨a, ha, hn, hf⟩)
    · exact ⟨.inl hx, hf⟩
    · exact ⟨.inr ⟨a, ha, hn⟩, hf⟩

end Escapes

namespace Response

variable {r : Response} {f : Fault}

theorem text_fault (h : r.text = .error f) : r.body = .error f ∨ ∃ c, ofCharsetFault c = f := by
  change r.body >>= _ = _ at h
  rcases Except.bind_eq_error_iff.mp h with hb | ⟨bs, -, hd⟩
  · exact .inl hb
  · obtain ⟨c, -, hc⟩ := Except.mapError_eq_error_iff.mp hd
    exact .inr ⟨c, hc⟩

theorem json_fault (h : r.json = .error f) :
    r.body = .error f ∨ (∃ c, ofCharsetFault c = f) ∨ ∃ p, Fault.ofParse p = f := by
  rw [json] at h
  split at h
  · next hb =>
    cases h
    exact .inl hb
  · rcases Except.bind_eq_error_iff.mp h with hc | ⟨s, -, hp⟩
    · split at hc
      · cases hc
      · exact (text_fault hc).imp_right .inl
    · obtain ⟨p, -, hp⟩ := Except.mapError_eq_error_iff.mp hp
      exact .inr (.inr ⟨p, hp⟩)

/-- JSON is not read, and no value is to blame: the exchange breaks off, or containers stand too
deep in one another. -/
inductive JsonLost (r : Response) : Fault → Prop where
  | broken {failure text} (hb : r.body = .error (.transport failure text))
      (hv : failure.isAboutValue = false) : JsonLost r (.transport failure text)
  | deep {c} (hj : r.json = .error (.tooDeep c)) : JsonLost r (.tooDeep c)

/-- Octets are there, but the charset that they are said to be in reads none. -/
inductive TextRefused (r : Response) : Fault → Prop where
  | charset {name reason} (ht : r.text = .error (.charset name reason)) :
      TextRefused r (.charset name reason)
  | name {text} (ht : r.text = .error (.value text)) : TextRefused r (.value text)

theorem JsonLost.not_isRefusal (h : r.JsonLost f) : ¬ f.IsRefusal := by
  rintro ⟨reason, cause, rfl⟩
  cases h

theorem TextRefused.not_isRefusal (h : r.TextRefused f) : ¬ f.IsRefusal := by
  rintro ⟨reason, cause, rfl⟩
  cases h

theorem jsonLost_iff (hb : FailsOnly Fault.IsReading r.body) :
    r.JsonLost f ↔ r.json = .error f ∧ f.isAboutValue = false := by
  constructor
  · rintro (⟨h, hv⟩ | ⟨hj⟩)
    · exact ⟨by rw [json, h], hv⟩
    · exact ⟨hj, rfl⟩
  · rintro ⟨hj, hv⟩
    rcases json_fault hj with h | ⟨c, rfl⟩ | ⟨p, rfl⟩
    · have hf := hb f h
      cases f with
      | transport failure text => exact .broken h hv
      | undecodable text => cases hv
      | _ => cases hf
    · -- What a charset does not read is always about a value.
      cases c <;> cases hv
    · cases p with
      | grammar | digits => cases hv
      | depth c => exact .deep hj

theorem textRefused_iff (hb : FailsOnly Fault.IsReading r.body) :
    r.TextRefused f ↔ r.text = .error f ∧ ¬ f.IsReading := by
  constructor
  · rintro (⟨ht⟩ | ⟨ht⟩)
    · exact ⟨ht, id⟩
    · exact ⟨ht, id⟩
  · rintro ⟨ht, hf⟩
    rcases text_fault ht with h | ⟨c, rfl⟩
    · exact absurd (hb f h) hf
    · cases c with
      | undecodable u => exact absurd trivial hf
      | refused name reason => exact .charset ht
      | badName => exact .name ht

theorem not_jsonLost_of_ok (hb : FailsOnly Fault.IsReading r.body) {v : Json}
    (hj : r.json = .ok v) : ¬ r.JsonLost f := by
  rw [jsonLost_iff hb, hj]
  rintro ⟨⟨⟩, -⟩

/-- Where values that cannot be read are told of and other failures are not. -/
theorem escapes_iff_jsonLost {α : Type} {x : Except Fault α} {g : Fault}
    (hb : FailsOnly Fault.IsReading r.body) (hj : r.json = .error g)
    (htold : g.isAboutValue = true → ¬ Escapes f x)
    (hpassed : g.isAboutValue = false → x = .error g) : Escapes f x ↔ r.JsonLost f := by
  rw [jsonLost_iff hb, hj, Except.error.injEq]
  cases hv : g.isAboutValue with
  | true =>
    refine iff_of_false (htold hv) ?_
    rintro ⟨rfl, hf⟩
    exact Bool.noConfusion (hv.symm.trans hf)
  | false =>
    have hl := (jsonLost_iff hb).mpr ⟨hj, hv⟩
    rw [hpassed hv, escapes_error_iff hl.not_isRefusal]
    constructor
    · rintro rfl
      exact ⟨rfl, hv⟩
    · exact And.left

end Response

section Answer

variable {r : Response} {f : Fault}

theorem escapes_decode_iff {α : Type} {model : String} {read : Json → Schema.Reading α}
    {refusal : Refusal} (hb : FailsOnly Fault.IsReading r.body) :
    Escapes f (Services.decode model read refusal r) ↔ r.JsonLost f := by
  cases hj : r.json with
  | ok v =>
    refine iff_of_false ?_ (Response.not_jsonLost_of_ok hb hj)
    cases hr : read v with
    | ok a =>
      rw [Services.decode_of_ok hj hr]
      exact not_escapes_ok a
    | error problems =>
      rw [Services.decode_of_problems hj hr]
      exact not_escapes_refusal _ _
  | error g =>
    rw [Services.decode_of_fault hj]
    refine Response.escapes_iff_jsonLost hb hj (fun hv => ?_) fun hv => ?_
    · rw [if_pos hv]
      exact not_escapes_refusal _ _
    · rw [if_neg (by simp [hv])]

section Report

variable {action : String} {expected : Int} (hs : r.status ≠ expected) (ht : r.text = .error f)
include hs ht

theorem report_of_reading (hf : f.IsReading) :
    report action expected r = .error (.refusal .unreadable (some f)) := by
  rw [report, if_neg hs, ht]
  cases f with
  | transport | undecodable => rfl
  | _ => cases hf

theorem report_of_not_reading (hf : ¬ f.IsReading) : report action expected r = .error f := by
  rw [report, if_neg hs, ht]
  cases f with
  | transport | undecodable => exact absurd trivial hf
  | _ => rfl

end Report

theorem escapes_report_iff {action : String} {expected : Int}
    (hb : FailsOnly Fault.IsReading r.body) :
    Escapes f (report action expected r) ↔ r.status ≠ expected ∧ r.TextRefused f := by
  rw [Response.textRefused_iff hb]
  by_cases hs : r.status = expected
  · simp [report, hs, not_escapes_ok]
  · cases ht : r.text with
    | ok reason => simp [report, hs, ht, not_escapes_ok]
    | error g =>
      by_cases hg : g.IsReading
      · rw [report_of_reading hs ht hg]
        refine iff_of_false (not_escapes_refusal _ _) ?_
        rintro ⟨-, ⟨⟩, hf⟩
        exact hf hg
      · rw [report_of_not_reading hs ht hg]
        have hl := (Response.textRefused_iff hb).mpr ⟨ht, hg⟩
        refine (escapes_error_iff hl.not_isRefusal).trans ⟨?_, ?_⟩
        · rintro rfl
          exact ⟨hs, rfl, hg⟩
        · rintro ⟨-, ⟨⟩, -⟩
          rfl

def Change.LetsThrough (c : Change) (r : Response) (f : Fault) : Prop :=
  r.status ≠ c.expected ∧ r.TextRefused f

def Task.LetsThrough (r : Response) (f : Fault) : Task → Prop
  | .createStream _ _ _ => Change.createStream.LetsThrough r f
  | .updateStream _ _ _ => Change.updateStream.LetsThrough r f
  | .listStreams => r.JsonLost f
  | .viewStream _ => r.status ≠ 404 ∧ r.JsonLost f
  | .deleteStream _ => Change.deleteStream.LetsThrough r f
  | .createRule _ => Change.createRule.LetsThrough r f

theorem escapes_change_iff (c : Change) {channel : Except Fault (Option String)}
    {request : Except Fault EngineRequest} (hb : FailsOnly Fault.IsReading r.body) :
    Escapes f ((Plan.change c channel request).conclude r) ↔ c.LetsThrough r f :=
  escapes_map.trans (escapes_report_iff hb)

theorem not_escapes_namesOf (v : Json) : ¬ Escapes f (Services.namesOf v) := by
  unfold Services.namesOf
  split
  · exact not_escapes_ok _
  · split
    · exact not_escapes_ok _
    · exact not_escapes_refusal _ _
  · exact not_escapes_refusal _ _

theorem escapes_streamNames_iff (user : String) (hb : FailsOnly Fault.IsReading r.body) :
    Escapes f (Services.streamNames user r) ↔ r.JsonLost f := by
  rw [Services.streamNames_eq_bind, escapes_bind, escapes_decode_iff hb, or_iff_left]
  rintro ⟨v, -, hv⟩
  exact not_escapes_namesOf v (escapes_map.mp hv)

theorem escapes_streamOf_iff (user : String) (hb : FailsOnly Fault.IsReading r.body) :
    Escapes f (Services.streamOf user r) ↔ r.status ≠ 404 ∧ r.JsonLost f := by
  rw [Services.streamOf]
  by_cases hs : r.status = 404
  · simp [hs, not_escapes_refusal]
  · rw [if_neg hs, escapes_map, escapes_decode_iff hb]
    exact (and_iff_right hs).symm

theorem escapes_conclude_iff (settings : Settings) (user : String) (task : Task)
    (hb : FailsOnly Fault.IsReading r.body) :
    Escapes f ((task.plan settings user).conclude r) ↔ task.LetsThrough r f := by
  cases task with
  | createStream | updateStream | deleteStream | createRule => exact escapes_change_iff _ hb
  | listStreams => exact escapes_map.trans (escapes_streamNames_iff user hb)
  | viewStream name => exact escapes_map.trans (escapes_streamOf_iff user hb)

end Answer

namespace Channels

open Services (channelFault)

variable {r : Response} {f : Fault}

/-- What of a body comes through when a channel is looked up. The body of a refusal is read, though
only to be noted, and then nothing that is wrong with it is caught. -/
def LetsThrough (r : Response) (f : Fault) : Prop :=
  (r.status ≠ 200 ∧ r.text = .error f) ∨ (r.status = 200 ∧ r.JsonLost f)

theorem text_fault_passes (hb : FailsOnly Fault.IsReading r.body) (h : r.text = .error f) :
    channelFault f = f ∧ ¬ f.IsRefusal := by
  rcases Response.text_fault h with hf | ⟨c, rfl⟩
  · have hr := hb f hf
    cases f with
    | transport | undecodable => exact ⟨rfl, fun ⟨_, _, he⟩ => nomatch he⟩
    | _ => cases hr
  · cases c <;> exact ⟨rfl, fun ⟨_, _, he⟩ => nomatch he⟩

theorem escapes_judge_of_found (id : String) (hb : FailsOnly Fault.IsReading r.body)
    (hs : r.status = 200) :
    Escapes f ((judge id r).mapError channelFault) ↔ r.JsonLost f := by
  rw [judge, if_neg (not_not.mpr hs)]
  cases hj : r.json with
  | ok v => exact iff_of_false (not_escapes_ok v) (Response.not_jsonLost_of_ok hb hj)
  | error g =>
    refine Response.escapes_iff_jsonLost hb hj (fun hv => ?_) fun hv => ?_
    · simp only [hv, if_true]
      exact not_escapes_refusal _ _
    · have hl := (Response.jsonLost_iff hb).mpr ⟨hj, hv⟩
      have hg : channelFault g = g := by cases hl <;> rfl
      simp only [hv, Bool.false_eq_true, if_false, Except.mapError_error, hg]

theorem escapes_judge_of_refused (id : String) (hb : FailsOnly Fault.IsReading r.body)
    (hs : r.status ≠ 200) :
    Escapes f ((judge id r).mapError channelFault) ↔ r.text = .error f := by
  rw [judge, if_pos hs]
  cases ht : r.text with
  | ok s =>
    refine iff_of_false (not_escapes_refusal _ _) ?_
    rintro ⟨⟩
  | error g =>
    obtain ⟨hg, hn⟩ := text_fault_passes hb ht
    simp only [Except.mapError_error, hg, escapes_error_iff hn, Except.error.injEq]

theorem escapes_judge_iff (id : String) (hb : FailsOnly Fault.IsReading r.body) :
    Escapes f ((judge id r).mapError channelFault) ↔ LetsThrough r f := by
  by_cases hs : r.status = 200
  · simp [LetsThrough, hs, escapes_judge_of_found id hb hs]
  · simp [LetsThrough, hs, escapes_judge_of_refused id hb hs]

end Channels

/-- A network in which tokens may be refused, exchanges may fail on the way, and the body of an
answer may be any octets or unreadable. -/
structure Network where
  identify : String → Run Call Identity
  channels : String → Except Fault Response
  engine : EngineRequest → Except Fault Response
  identity_fault : ∀ token,
    FailsOnly (fun f => ∃ reason cause, f = .token reason cause) (identify token).outcome
  channels_fault : ∀ url, FailsOnly (fun f => f.isTransport) (channels url)
  channels_body : ∀ url answer, channels url = .ok answer → FailsOnly Fault.IsReading answer.body
  engine_fault : ∀ request, FailsOnly (fun f => f.isTransport) (engine request)
  engine_body : ∀ request answer, engine request = .ok answer →
    FailsOnly Fault.IsReading answer.body

namespace Network

variable (n : Network) (settings : Settings)

def services : Services Call := .overNetwork settings n.identify n.channels n.engine

variable {n settings} {token : String} {task : Task} {f : Fault}

theorem engine_outcome (request : EngineRequest) :
    ((n.services settings).engine request).outcome =
      (n.engine request).mapError Engine.unreachable := rfl

theorem not_escapes_engine (request : EngineRequest) :
    ¬ Escapes f ((n.services settings).engine request).outcome := by
  rw [engine_outcome]
  cases h : n.engine request with
  | ok answer => exact not_escapes_ok _
  | error g =>
    rw [Except.mapError_error, Engine.unreachable, if_pos (n.engine_fault request g h)]
    exact not_escapes_refusal _ _

theorem escapes_checkChannel_iff (id : String) :
    Escapes f ((n.services settings).checkChannel id token).outcome ↔
      id ≠ "" ∧ ∃ answer, n.channels (Channels.url settings id) = .ok answer ∧
        Channels.LetsThrough answer f := by
  have ho : ((n.services settings).checkChannel id token).outcome =
      (Channels.lookup settings n.channels id token).outcome.mapError Services.channelFault := rfl
  rw [ho, Channels.lookup]
  by_cases h : id = ""
  · simp [h, Channels.refuse, Services.channelFault, not_escapes_refusal]
  · rw [if_neg h, Run.outcome_ask, and_iff_right h]
    cases hs : n.channels (Channels.url settings id) with
    | ok answer =>
      simp [Channels.conclude, Channels.escapes_judge_iff id (n.channels_body _ _ hs)]
    | error g =>
      simp [Channels.conclude, n.channels_fault _ g hs, Channels.refuse, Services.channelFault,
        not_escapes_refusal]

/-- The ways a fault comes through, where `asked` is what is asked of the services: by the answer to
a look-up, or by the engine's answer. -/
inductive Leak (n : Network) (settings : Settings) (token : String) (task : Task)
    (asked : List Question) (f : Fault) : Prop where
  | channel {id answer} (hq : .channel id token ∈ asked) (hid : id ≠ "")
      (ha : n.channels (Channels.url settings id) = .ok answer)
      (hl : Channels.LetsThrough answer f)
  | engine {request answer} (hq : .engine request ∈ asked) (ha : n.engine request = .ok answer)
      (hl : task.LetsThrough answer f)

theorem leak_iff {asked : List Question} :
    n.Leak settings token task asked f ↔
      (∃ id, .channel id token ∈ asked ∧
        Escapes f ((n.services settings).checkChannel id token).outcome) ∨
      ∃ request, .engine request ∈ asked ∧
        ∃ answer, n.engine request = .ok answer ∧ task.LetsThrough answer f := by
  constructor
  · rintro (⟨hq, hid, ha, hl⟩ | ⟨hq, ha, hl⟩)
    · exact .inl ⟨_, hq, (escapes_checkChannel_iff _).mpr ⟨hid, _, ha, hl⟩⟩
    · exact .inr ⟨_, hq, _, ha, hl⟩
  · rintro (⟨id, hq, he⟩ | ⟨request, hq, answer, ha, hl⟩)
    · obtain ⟨hid, answer, ha, hl⟩ := (escapes_checkChannel_iff id).mp he
      exact .channel hq hid ha hl
    · exact .engine hq ha hl

theorem not_escapes_of_admits (hc : (n.services settings).behaviour.Admits token task) {id : String}
    (hid : task.channel? = some id) :
    ¬ Escapes f ((n.services settings).checkChannel id token).outcome := by
  obtain ⟨v, hv⟩ := hc id hid
  change ((n.services settings).channel id token).outcome = .ok v at hv
  rw [Services.checkChannel, Run.outcome_mapFault, hv]
  exact not_escapes_ok _

theorem not_escapes_plan_request {user : String} {g : Fault}
    (h : (task.plan settings user).request = .error g) :
    ¬ Escapes f (.error g : Except Fault Product) := by
  cases task with
  | createRule rule =>
    change Task.ruleRequest user rule = .error g at h
    rw [Task.ruleRequest, Except.map_eq_error_iff, Except.mapError_eq_error_iff] at h
    obtain ⟨reason, -, rfl⟩ := h
    exact not_escapes_refusal _ _
  | _ => cases h

theorem escapes_answer_iff (request : EngineRequest) (user : String) :
    Escapes f (((n.services settings).engine request).outcome >>=
        (task.plan settings user).conclude) ↔
      ∃ answer, n.engine request = .ok answer ∧ task.LetsThrough answer f := by
  rw [escapes_bind, or_iff_right (not_escapes_engine request), engine_outcome]
  simp only [Except.mapError_eq_ok_iff]
  refine exists_congr fun answer => and_congr_right fun ha => ?_
  exact escapes_conclude_iff settings user task (n.engine_body request answer ha)

theorem escapes_course_iff {run : Run Question Product}
    (h : Course (n.services settings).behaviour settings token task run) :
    Escapes f run.outcome ↔ n.Leak settings token task run.calls f := by
  rw [leak_iff]
  -- What comes through a look-up ends the operation there, so a course that goes on had none.
  have hfound : (n.services settings).behaviour.Admits token task →
      ¬ ∃ id, .channel id token ∈ run.calls ∧
        Escapes f ((n.services settings).checkChannel id token).outcome := by
    rintro hc ⟨id, hq, he⟩
    exact not_escapes_of_admits hc ((h.channel_mem_iff id token).mp hq).2.2 he
  cases h with
  | unknown hi =>
    obtain ⟨reason, cause, rfl⟩ := n.identity_fault token _ hi
    exact iff_of_false (not_escapes_refusal _ _) (by simp)
  | idle hi ha => exact iff_of_false (not_escapes_refusal _ _) (by simp)
  | @barred user id g hi ha hid hf =>
    have ho : ((n.services settings).checkChannel id token).outcome =
        .error (Services.channelFault g) := congrArg (Except.mapError Services.channelFault) hf
    have he : Escapes f ((n.services settings).checkChannel id token).outcome ↔
        Escapes f (.error (Services.channelFault g) : Except Fault Product) := by
      rw [ho, Escapes, Escapes, Except.error.injEq, Except.error.injEq]
    simp [he]
  | refused hi ha hc hr =>
    refine iff_of_false (not_escapes_plan_request hr) (not_or.mpr ⟨hfound hc, ?_⟩)
    simp [engine_notMem_channelQuestion]
  | @sent user request hi ha hc hr =>
    rw [or_iff_right (hfound hc)]
    simp only [engine_mem_sent_iff, exists_eq_left]
    exact escapes_answer_iff request user.id

theorem escapes_info_iff :
    Escapes f (n.services settings).info.outcome ↔
      ∃ answer, n.engine ⟨.get, "", none⟩ = .ok answer ∧ answer.JsonLost f := by
  have ho : (n.services settings).info.outcome =
      ((n.services settings).engine ⟨.get, "", none⟩).outcome >>=
        Services.decode Info.model (Info.read .program) .infoPayload :=
    Run.outcome_bind _ _
  rw [ho, escapes_bind, or_iff_right (not_escapes_engine _), engine_outcome]
  simp only [Except.mapError_eq_ok_iff]
  refine exists_congr fun answer => and_congr_right fun ha => ?_
  exact escapes_decode_iff (n.engine_body _ answer ha)

end Network

/-- A fault that is not one of the gateway's own ends an operation, or the question of what the
engine is, just when the body of an answer cannot be read in one of the ways listed. -/
theorem fault_containment (n : Network) (settings : Settings) :
    (∀ token task f, Escapes f ((n.services settings).perform settings token task).outcome ↔
      n.Leak settings token task ((n.services settings).questions settings token task) f) ∧
    ∀ f, Escapes f (n.services settings).info.outcome ↔
      ∃ answer, n.engine ⟨.get, "", none⟩ = .ok answer ∧ answer.JsonLost f := by
  refine ⟨fun token task f => ?_, fun f => Network.escapes_info_iff⟩
  rw [Services.outcome_perform]
  exact Network.escapes_course_iff (perform_course _ settings token task)

namespace Reset

def lost : Except Fault Text.Bytes := .error (.transport .connection "reset")

theorem failsOnly_lost : FailsOnly Fault.IsReading lost := by
  rintro _ ⟨⟩
  trivial

def network : Network where
  identify token := .ask (.identity token) (.ok ⟨"u-1", none⟩)
  channels _ := .ok ⟨404, "", lost⟩
  engine _ := .ok ⟨200, "", lost⟩
  identity_fault _ _ h := nomatch h
  channels_fault _ _ h := nomatch h
  channels_body := by
    rintro _ _ ⟨⟩
    exact failsOnly_lost
  engine_fault _ _ h := nomatch h
  engine_body := by
    rintro _ _ ⟨⟩
    exact failsOnly_lost

/-- A lost connection reaches the caller by the look-up of a channel that is not there, and by the
engine's account of itself. -/
theorem comes_through :
    Escapes (.transport .connection "reset")
      ((network.services .usual).perform .usual "t" (.createStream "a" "c" "v float")).outcome ∧
    Escapes (.transport .connection "reset") (network.services .usual).info.outcome := by
  refine ⟨⟨rfl, ?_⟩, ⟨rfl, ?_⟩⟩ <;> rintro ⟨_, _, ⟨⟩⟩

end Reset

end TenantGateway
