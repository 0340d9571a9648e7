import TenantGateway.Proofs.Containment
import TenantGateway.Proofs.Depth

/-! # Admission to a channel

When a look-up finds its channel, and when it denies it. Nothing is asked of the engine for a
channel that is not found, whatever becomes of the look-up.
-/
namespace TenantGateway

open Text

namespace Response

/-- The text that is read as JSON: the one that a body plainly is, or else the one that it is in its
charset. -/
inductive Spells (r : Response) (s : String) : Prop where
  | plain {bs} (hb : r.body = .ok bs) (hp : plainJson? r.contentType bs = some s)
  | named {bs} (hb : r.body = .ok bs) (hp : plainJson? r.contentType bs = none)
      (hd : Charset.decodeNamed (charset? r.contentType) bs = .ok s)

variable {r : Response} {bs : Bytes} {s : String}

theorem Spells.readable (h : r.Spells s) : ∃ bs, r.body = .ok bs := by
  cases h with
  | plain hb | named hb => exact ⟨_, hb⟩

theorem text_of_body (hb : r.body = .ok bs) :
    r.text = (Charset.decodeNamed (charset? r.contentType) bs).mapError ofCharsetFault := by
  rw [text, hb]
  rfl

theorem spells_iff_plain {t : String} (hb : r.body = .ok bs)
    (hp : plainJson? r.contentType bs = some t) : r.Spells s ↔ t = s := by
  constructor
  · rintro (⟨hc, hs⟩ | ⟨hc, hs, -⟩) <;> cases hb.symm.trans hc <;> cases hp.symm.trans hs
    rfl
  · rintro rfl
    exact .plain hb hp

theorem spells_iff_text (hb : r.body = .ok bs) (hp : plainJson? r.contentType bs = none) :
    r.Spells s ↔ r.text = .ok s := by
  rw [text_of_body hb, Except.mapError_eq_ok_iff]
  constructor
  · rintro (⟨hc, hs⟩ | ⟨hc, -, hd⟩) <;> cases hb.symm.trans hc
    · cases hp.symm.trans hs
    · exact hd
  · exact .named hb hp

theorem parse_eq_ok_iff {content : Except Fault String} {v : Json} :
    (content.bind fun s => (Json.parse s).mapError .ofParse) = .ok v ↔
      ∃ s, content = .ok s ∧ Json.parse s = .ok v := by
  change content >>= _ = _ ↔ _
  simp only [Except.bind_eq_ok_iff, Except.mapError_eq_ok_iff]

theorem json_eq_ok_iff {v : Json} : r.json = .ok v ↔ ∃ s, r.Spells s ∧ Json.parse s = .ok v := by
  rw [json]
  cases hb : r.body with
  | error f =>
    constructor
    · rintro ⟨⟩
    · rintro ⟨s, hs, -⟩
      obtain ⟨bs, hbs⟩ := hs.readable
      cases hb.symm.trans hbs
  | ok bs =>
    simp only [parse_eq_ok_iff]
    cases hp : plainJson? r.contentType bs with
    | some t => simp only [spells_iff_plain hb hp, Except.ok.injEq]
    | none => simp only [spells_iff_text hb hp]

end Response

namespace Channels

section

variable (settings : Settings) (channels : String → Except Fault Response) (id : String)

/-- The channel is found: it has an id, and the answer is the right status and JSON of any value. -/
def Finds : Prop :=
  id ≠ "" ∧ ∃ r, channels (url settings id) = .ok r ∧ r.status = 200 ∧
    ∃ s v, r.Spells s ∧ Json.parse s = .ok v

inductive Denies : ChannelRefusal → Option Fault → Prop where
  | empty (hid : id = "") : Denies .emptyId none
  | unreachable {f} (hid : id ≠ "") (hr : channels (url settings id) = .error f)
      (hf : f.isTransport) : Denies .unreachable (some f)
  | status {r s} (hid : id ≠ "") (hr : channels (url settings id) = .ok r) (hs : r.status ≠ 200)
      (ht : r.text = .ok s) : Denies (.status id r.status) none
  | payload {r f} (hid : id ≠ "") (hr : channels (url settings id) = .ok r) (hs : r.status = 200)
      (hj : r.json = .error f) (hf : f.isAboutValue) : Denies (.payload id) (some f)

/-- The channel is neither found nor denied, for a fault of its answer's body. -/
def Passes (f : Fault) : Prop :=
  id ≠ "" ∧ ∃ r, channels (url settings id) = .ok r ∧ LetsThrough r f

def Readable : Prop :=
  match channels (url settings id) with
  | .error f => f.isTransport
  | .ok r => ∃ bs, r.body = .ok bs

end

variable {settings : Settings} {channels : String → Except Fault Response} {id token : String}

theorem outcome_lookup (hid : id ≠ "") :
    (lookup settings channels id token).outcome = conclude id (channels (url settings id)) := by
  rw [lookup, if_neg hid]
  rfl

theorem judge_eq_ok_iff {r : Response} {v : Json} :
    judge id r = .ok v ↔ r.status = 200 ∧ r.json = .ok v := by
  unfold judge
  by_cases hs : r.status = 200
  · simp only [hs, ne_eq, not_true, if_false, true_and]
    cases r.json with
    | ok w => exact Iff.rfl
    | error f => cases h : f.isAboutValue <;> simp [refuse, h]
  · cases r.text <;> simp [hs, refuse]

theorem exists_lookup_ok_iff (token : String) :
    (∃ v, (lookup settings channels id token).outcome = .ok v) ↔ Finds settings channels id := by
  by_cases hid : id = ""
  · simp [lookup, Finds, refuse, hid]
  · rw [outcome_lookup hid, Finds, and_iff_right hid]
    cases hr : channels (url settings id) with
    | error f => cases hf : f.isTransport <;> simp [conclude, refuse, hf]
    | ok r =>
      simp only [conclude, judge_eq_ok_iff, Response.json_eq_ok_iff, Except.ok.injEq,
        exists_eq_left']
      constructor
      · rintro ⟨v, hs, s, ht, hp⟩
        exact ⟨hs, s, v, ht, hp⟩
      · rintro ⟨hs, s, v, ht, hp⟩
        exact ⟨v, hs, s, ht, hp⟩

theorem judge_fault {r : Response} {f : Fault} (hb : FailsOnly Fault.IsReading r.body)
    (hj : judge id r = .error f) :
    (r.status ≠ 200 ∧ (∃ s, r.text = .ok s) ∧ f = .channel (.status id r.status) none) ∨
      (r.status = 200 ∧ ∃ g, r.json = .error g ∧ g.isAboutValue ∧
        f = .channel (.payload id) (some g)) ∨
      LetsThrough r f := by
  unfold judge at hj
  by_cases hs : r.status = 200
  · simp only [hs, ne_eq, not_true, if_false] at hj
    cases hv : r.json with
    | ok v =>
      rw [hv] at hj
      cases hj
    | error g =>
      simp only [hv] at hj
      split at hj
      · next hg =>
        cases hj
        exact .inr (.inl ⟨hs, g, rfl, hg, rfl⟩)
      · next hg =>
        cases hj
        exact .inr (.inr (.inr ⟨hs, (Response.jsonLost_iff hb).mpr ⟨hv, by simpa using hg⟩⟩))
  · simp only [ne_eq, hs, not_false_iff, if_true] at hj
    cases ht : r.text with
    | ok s =>
      rw [ht] at hj
      cases hj
      exact .inl ⟨hs, ⟨s, rfl⟩, rfl⟩
    | error g =>
      rw [ht] at hj
      cases hj
      exact .inr (.inr (.inl ⟨hs, ht⟩))

theorem failsOnly_of_body {r : Response} {bs : Bytes} {p : Fault → Prop} (hb : r.body = .ok bs) :
    FailsOnly p r.body := by
  rw [hb]
  rintro f ⟨⟩

theorem lookup_fault (hr : Readable settings channels id) {f : Fault}
    (ho : (lookup settings channels id token).outcome = .error f) :
    (∃ reason cause, Denies settings channels id reason cause ∧ f = .channel reason cause) ∨
      Passes settings channels id f := by
  by_cases hid : id = ""
  · rw [lookup, if_pos hid] at ho
    cases ho
    exact .inl ⟨_, _, .empty hid, rfl⟩
  · rw [outcome_lookup hid] at ho
    cases hs : channels (url settings id) with
    | error g =>
      simp only [Readable, hs] at hr
      simp only [hs, conclude, hr, if_true] at ho
      cases ho
      exact .inl ⟨_, _, .unreachable hid hs hr, rfl⟩
    | ok r =>
      simp only [Readable, hs] at hr
      obtain ⟨bs, hb⟩ := hr
      simp only [hs, conclude] at ho
      rcases judge_fault (failsOnly_of_body hb) ho with
        ⟨hn, ⟨s, ht⟩, rfl⟩ | ⟨hn, g, hj, hg, rfl⟩ | hl
      · exact .inl ⟨_, _, .status hid hs hn ht, rfl⟩
      · exact .inl ⟨_, _, .payload hid hs hn hj hg, rfl⟩
      · exact .inr ⟨hid, r, hs, hl⟩

theorem checkChannel_of_passes (token : String) (hr : Readable settings channels id) {f : Fault}
    (hp : Passes settings channels id f) :
    (lookup settings channels id token).outcome.mapError Services.channelFault = .error f := by
  obtain ⟨hid, r, hs, hl⟩ := hp
  simp only [Readable, hs] at hr
  obtain ⟨bs, hb⟩ := hr
  rw [outcome_lookup hid, hs]
  exact ((escapes_judge_iff id (failsOnly_of_body hb)).mpr hl).1

end Channels

/-- What is promised of an operation for a channel. -/
structure Guarded (settings : Settings) (channels : String → Except Fault Response)
    (token id : String) (run : Run Call Product) : Prop where
  /-- The engine is asked for a channel that is found, and for no other one. -/
  engine_asked : (∃ call ∈ run.calls, call.isEngine) ↔ Channels.Finds settings channels id
  channel_asked : run.calls.filter Call.isChannel =
    if id = "" then []
    else [.channel (Channels.url settings id) ("Bearer " ++ token) settings.timeout]
  denied : Channels.Readable settings channels id → ¬ Channels.Finds settings channels id →
    (∀ f, ¬ Channels.Passes settings channels id f) →
    ∃ reason cause, Channels.Denies settings channels id reason cause ∧
      run.outcome = .error (.refusal .unauthorized (some (.channel reason cause)))
  passed_on : Channels.Readable settings channels id → ∀ f,
    Channels.Passes settings channels id f → run.outcome = .error f

section Guarded

variable {settings : Settings} {who : Identifier} {channels : String → Except Fault Response}
  {engine : EngineRequest → Except Fault Response} {token id : String} {task : Task}
  {user : Identity}

theorem admits_iff (hid : task.channel? = some id) :
    (Services.overNetwork settings who.identify channels engine).behaviour.Admits token task ↔
      Channels.Finds settings channels id := by
  rw [← Channels.exists_lookup_ok_iff token, Behaviour.Admits, hid]
  constructor
  · intro h
    exact h id rfl
  · rintro h _ ⟨⟩
    exact h

theorem exists_engine_call_iff (hu : (who.identify token).outcome = .ok user)
    (hid : task.channel? = some id) (hs : task.HasSource) :
    (∃ call ∈ ((Services.overNetwork settings who.identify channels engine).perform
        settings token task).calls, call.isEngine) ↔ Channels.Finds settings channels id := by
  have ha : (Services.overNetwork settings who.identify channels engine).behaviour.Admits token
      task ↔ Channels.Finds settings channels id := admits_iff hid
  have hq := (perform_course
    (Services.overNetwork settings who.identify channels engine).behaviour settings token
    task).engine_mem_iff
  constructor
  · rintro ⟨call, hm, he⟩
    cases call with
    | engine verb url body timeout =>
      obtain ⟨request, hr, -⟩ := engine_call_mem_iff.mp hm
      exact ha.mp (hq.mp ⟨request, hr⟩).2.1
    | _ => cases he
  · intro hf
    obtain ⟨request, hr⟩ :=
      hq.mpr ⟨⟨user, hu⟩, ha.mpr hf, Task.hasAction_of_channel? hid, hs⟩
    exact ⟨_, engine_call_mem_iff.mpr ⟨request, hr, rfl⟩, rfl⟩

theorem filter_isChannel_asked (question : Question) :
    ((Services.overNetwork settings who.identify channels engine).asked question).filter
        Call.isChannel =
      match question with
      | .channel id t => (Channels.lookup settings channels id t).calls
      | _ => [] := by
  cases question with
  | identity t => exact who.filter_isChannel t
  | channel id t =>
    change (Channels.lookup settings channels id t).calls.filter Call.isChannel =
      (Channels.lookup settings channels id t).calls
    rw [calls_lookup]
    split <;> rfl
  | engine request => rfl

theorem filter_isChannel_calls (hu : (who.identify token).outcome = .ok user)
    (hid : task.channel? = some id) :
    ((Services.overNetwork settings who.identify channels engine).perform
        settings token task).calls.filter Call.isChannel =
      (Channels.lookup settings channels id token).calls := by
  rw [Services.calls_perform, List.filter_flatMap]
  simp only [filter_isChannel_asked]
  have hq : channelQuestion token task = [.channel id token] := by
    rw [channelQuestion, hid]
    rfl
  have h := perform_course
    (Services.overNetwork settings who.identify channels engine).behaviour settings token task
  rw [Services.questions]
  generalize Services.perform _ settings token task = run at h ⊢
  cases h with
  | unknown hi => cases hu.symm.trans hi
  | idle _ ha => exact absurd (Task.hasAction_of_channel? hid) ha
  | barred _ _ hc =>
    cases hid.symm.trans hc
    simp
  | refused | sent => simp [hq]

/-- Tasks that name a channel are refused unless it is found. -/
theorem channel_admission (hu : (who.identify token).outcome = .ok user)
    (hid : task.channel? = some id) (hs : task.HasSource) :
    Guarded settings channels token id
      ((Services.overNetwork settings who.identify channels engine).perform
        settings token task) := by
  have hcourse := perform_course
    (Services.overNetwork settings who.identify channels engine).behaviour settings token task
  have hbarred : ∀ f, (Channels.lookup settings channels id token).outcome = .error f →
      ((Services.overNetwork settings who.identify channels engine).perform
        settings token task).outcome = .error (Services.channelFault f) := by
    intro f hf
    rw [Services.outcome_perform]
    exact hcourse.outcome_of_barred hu hid hf
  constructor
  · exact exists_engine_call_iff hu hid hs
  · rw [filter_isChannel_calls hu hid, calls_lookup]
  · intro hr hn hp
    cases ho : (Channels.lookup settings channels id token).outcome with
    | ok v => exact absurd ((Channels.exists_lookup_ok_iff token).mp ⟨v, ho⟩) hn
    | error f =>
      rcases Channels.lookup_fault hr ho with ⟨reason, cause, hd, rfl⟩ | hf
      · exact ⟨reason, cause, hd, hbarred _ ho⟩
      · exact absurd hf (hp f)
  · intro hr f hf
    have hc := Channels.checkChannel_of_passes token hr hf
    obtain ⟨g, hg, rfl⟩ := Except.mapError_eq_error_iff.mp hc
    exact hbarred g hg

end Guarded

namespace Unadmitted

def run (answer : Response) : Run Call Product :=
  (Services.overNetwork .usual Twins.who.identify (fun _ => .ok answer) Twins.accepting).perform
    .usual "t" Twins.creation

theorem no_content_denied :
    (Twins.who.identify "t").outcome = .ok ⟨"ab-c", some "c@ab"⟩ ∧
      Twins.creation.channel? = some "c" ∧ Twins.creation.HasSource ∧
      (¬ ∃ call ∈ (run ⟨204, "", .ok []⟩).calls, call.isEngine) ∧
      (run ⟨204, "", .ok []⟩).calls.filter Call.isChannel =
        [.channel "http://things:8182/channels/c" "Bearer t" Settings.usual.timeout] ∧
      (run ⟨204, "", .ok []⟩).outcome =
        .error (.refusal .unauthorized (some (.channel (.status "c" 204) none))) := by
  have h : Guarded .usual (fun _ => .ok ⟨204, "", .ok []⟩) "t" "c" (run ⟨204, "", .ok []⟩) :=
    channel_admission rfl rfl trivial
  have hn : ¬ Channels.Finds .usual (fun _ => .ok ⟨204, "", .ok []⟩) "c" := by
    rintro ⟨-, _, ⟨⟩, hs, -⟩
    cases hs
  refine ⟨rfl, rfl, trivial, fun he => hn (h.engine_asked.mp he), ?_, ?_⟩
  · rw [h.channel_asked]
    rfl
  · have hp : ∀ f, ¬ Channels.Passes .usual (fun _ => .ok ⟨204, "", .ok []⟩) "c" f := by
      rintro f ⟨-, _, ⟨⟩, ⟨-, ht⟩ | ⟨hs, -⟩⟩
      · cases ht
      · cases hs
    obtain ⟨reason, cause, hd, ho⟩ := h.denied ⟨[], rfl⟩ hn hp
    cases hd with
    | empty hid => exact absurd hid (by decide)
    | unreachable _ hr => cases hr
    | status _ hr =>
      cases hr
      exact ho
    | payload _ hr hs =>
      cases hr
      cases hs

def illegible : Response := ⟨404, "text/plain; charset=undefined", .ok [0x78]⟩

theorem charset_illegible : Response.charset? illegible.contentType = some "undefined" := by
  have hp : Response.parameters illegible.contentType = [("charset", "undefined")] := by
    rw [Response.parameters, show ";" = String.singleton ';' from rfl, splitOn_singleton]
    decide +kernel
  rw [Response.charset?, hp]
  decide +kernel

theorem text_illegible :
    illegible.text = .error (.charset "undefined" "undefined encoding") := by
  have hn : Charset.ofName? "undefined" = some (.refusing "undefined encoding") := by
    have hf : CharsetName.find? "undefined" = some "undefined" := by decide +kernel
    rw [Charset.ofName?, hf]
    rfl
  have hz : "undefined".toList.contains (Char.ofNat 0) = false := by decide
  have hb : illegible.body = .ok [0x78] := rfl
  rw [Response.text_of_body hb, charset_illegible]
  simp only [Charset.decodeNamed, hz, hn]
  rfl

def bottomless : Response :=
  ⟨200, "", .ok (Utf8.encode (String.ofList (List.replicate (Json.depthLimit + 1) '[')))⟩

theorem json_bottomless : bottomless.json = .error (.tooDeep .array) :=
  Response.json_too_deep [] rfl (by rw [List.append_nil]; rfl)

theorem outcome_run {answer : Response} {f : Fault} (hj : Channels.judge "c" answer = .error f) :
    (run answer).outcome = .error (Services.channelFault f) := by
  have ho : (Channels.lookup .usual (fun _ => .ok answer) "c" "t").outcome = .error f := by
    rw [Channels.outcome_lookup (by decide), Channels.conclude, hj]
  rw [run, Services.outcome_perform]
  have hcourse := perform_course (Services.behaviour (.overNetwork .usual Twins.who.identify
    (fun _ => .ok answer) Twins.accepting)) .usual "t" Twins.creation
  exact hcourse.outcome_of_barred rfl rfl ho

/-- What cannot be read of an answer comes through, though the exchange is complete. -/
theorem unread_passed_on :
    (Twins.who.identify "t").outcome = .ok ⟨"ab-c", some "c@ab"⟩ ∧
      Twins.creation.channel? = some "c" ∧
      (illegible.status = 404 ∧ illegible.body = .ok [0x78] ∧
        (run illegible).outcome = .error (.charset "undefined" "undefined encoding")) ∧
      (bottomless.status = 200 ∧ (∃ bs, bottomless.body = .ok bs) ∧
        (run bottomless).outcome = .error (.tooDeep .array)) := by
  refine ⟨rfl, rfl, ⟨rfl, rfl, ?_⟩, ⟨rfl, ⟨_, rfl⟩, ?_⟩⟩
  · have hs : illegible.status ≠ 200 := by decide
    exact outcome_run (by rw [Channels.judge, if_pos hs, text_illegible])
  · have hs : ¬ bottomless.status ≠ 200 := by decide
    exact outcome_run (by rw [Channels.judge, if_neg hs, json_bottomless]; rfl)

end Unadmitted

end TenantGateway
