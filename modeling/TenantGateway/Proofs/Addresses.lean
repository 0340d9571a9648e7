import TenantGateway.Proofs.Network
import TenantGateway.Proofs.Percent

/-! # Addresses

The URLs that are asked for a name or an id. The name of a stream is encoded, so whatever it is, it
stays one segment of the path and is read back from there. The id of a channel is not, so it is one
segment only if it is written like one.
-/
namespace TenantGateway

open Namespace Text

/-- One segment of a path: nothing in it ends a segment or a path, and it is no step to where one
is or up from there. -/
structure IsSegment (s : String) : Prop where
  ne_empty : s ≠ ""
  unmarked : ∀ mark ∈ ['/', '?', '#'], mark ∉ s.toList
  ne_here : s ≠ "."
  ne_up : s ≠ ".."

theorem isSegment_of_encoded {s : String} (h : Percent.Encoded s.toList) (hu : '_' ∈ s.toList) :
    IsSegment s := by
  constructor
  · rintro rfl
    exact absurd hu (by decide)
  · intro mark hm
    simp only [List.mem_cons, List.not_mem_nil, or_false] at hm
    rcases hm with rfl | rfl | rfl <;> exact h.notMem (by decide) (by decide) (by decide)
  · rintro rfl
    exact absurd hu (by decide)
  · rintro rfl
    exact absurd hu (by decide)

/-- The URL of a stream: the engine's own and a segment from which the name is read back. -/
structure StreamUrl (engineUrl name url base segment : String) : Prop where
  trimmed : Trimmed '/' engineUrl base
  joined : url = base ++ "/streams/" ++ segment
  one : IsSegment segment
  encoded : Percent.Encoded segment.toList
  underscore : '_' ∈ segment.toList
  octets : Percent.decodeBytes segment.toList = Utf8.encode name
  text : Percent.decode segment = name

theorem underscore_mem_qualify (user name : String) : '_' ∈ (qualify user name).toList := by
  simp

theorem engine_url_streamPath (settings : Settings) (name : String) :
    Engine.url settings (streamPath name) =
      dropTrailing '/' settings.engineUrl ++ "/streams/" ++ Percent.encodeSegment name := by
  have hp : (streamPath name).toList =
      's' :: ("treams/".toList ++ (Percent.encodeSegment name).toList) := by
    simp [streamPath]
  have hne : streamPath name ≠ "" := by
    intro h
    rw [h] at hp
    cases hp
  simp only [Engine.url, hne, if_false]
  rw [hp, List.dropWhile_cons_of_neg (by decide), ← hp, String.ofList_toList]
  exact String.toList_inj.mp (by simp [streamPath])

theorem streamUrl_qualify (settings : Settings) (user name : String) :
    StreamUrl settings.engineUrl (qualify user name)
      (Engine.url settings (streamPath (qualify user name)))
      (dropTrailing '/' settings.engineUrl) (Percent.encodeSegment (qualify user name)) := by
  have he := Percent.encoded_encodeSegment (qualify user name)
  have hu : '_' ∈ (Percent.encodeSegment (qualify user name)).toList :=
    Percent.mem_encodeSegment (by decide) (underscore_mem_qualify user name)
  exact
    { trimmed := trimmed_dropTrailing '/' _
      joined := engine_url_streamPath settings _
      one := isSegment_of_encoded he hu
      encoded := he
      underscore := hu
      octets := Percent.decodeBytes_encodeSegment _
      text := Percent.decode_encodeSegment _ }

theorem engine_url_streamPath_inj {settings other : Settings}
    (h : settings.engineUrl = other.engineUrl) {name another : String} :
    Engine.url settings (streamPath name) = Engine.url other (streamPath another) ↔
      name = another := by
  rw [engine_url_streamPath, engine_url_streamPath, h]
  constructor
  · intro hu
    exact Percent.encodeSegment_injective (String.append_right_inj _ |>.mp hu)
  · rintro rfl
    rfl

def Task.stream? : Task → Option String
  | .updateStream name _ _ | .viewStream name | .deleteStream name => some name
  | .createStream .. | .listStreams | .createRule _ => none

theorem Task.exists_request_of_stream? {task : Task} {name : String} (h : task.stream? = some name)
    (settings : Settings) (user : String) :
    ∃ request, (task.plan settings user).request = .ok request ∧
      request.path = streamPath (qualify user name) := by
  cases task with
  | updateStream | viewStream | deleteStream =>
    cases h
    exact ⟨_, rfl, rfl⟩
  | createStream | listStreams | createRule => cases h

theorem Task.hasAction_of_stream? {task : Task} {name : String} (h : task.stream? = some name) :
    task.HasAction := by
  cases task with
  | createRule => cases h
  | _ => trivial

/-- A known caller's task that addresses a stream, and the network it is carried out over. -/
structure Errand where
  settings : Settings
  who : Identifier
  channels : String → Except Fault Response
  engine : EngineRequest → Except Fault Response
  token : String
  task : Task
  user : Identity
  stream : String
  known : (who.identify token).outcome = .ok user
  addressed : task.stream? = some stream

namespace Errand

variable (e : Errand)

def services : Services Call := .overNetwork e.settings e.who.identify e.channels e.engine

def name : String := qualify e.user.id e.stream

def Requests (url : String) : Prop :=
  ∃ verb body timeout,
    Call.engine verb url body timeout ∈ (e.services.perform e.settings e.token e.task).calls

theorem requests_iff {url : String} :
    e.Requests url ↔
      e.services.behaviour.Admits e.token e.task ∧
        url = Engine.url e.settings (streamPath e.name) := by
  obtain ⟨sent, hp, hpath⟩ :=
    Task.exists_request_of_stream? e.addressed e.settings e.user.id
  have hu : (e.services.identify e.token).outcome = .ok e.user := e.known
  have ha := Task.hasAction_of_stream? e.addressed
  have hq : ∀ request, .engine request ∈ e.services.questions e.settings e.token e.task ↔ _ :=
    fun _ => Services.engine_mem_questions_iff_of_plan e.task hu ha hp
  rw [name, ← hpath]
  constructor
  · rintro ⟨verb, body, timeout, hm⟩
    obtain ⟨request, hr, hc⟩ := engine_call_mem_iff.mp hm
    obtain ⟨ha, rfl⟩ := (hq request).mp hr
    cases hc
    exact ⟨ha, rfl⟩
  · rintro ⟨ha, rfl⟩
    exact ⟨_, _, _, engine_call_mem_iff.mpr ⟨sent, (hq sent).mpr ⟨ha, rfl⟩, rfl⟩⟩

end Errand

/-- Whatever a stream is called, its URL is the engine's with one segment more, which has no mark in
it, is no step through the path, and says the name. At one engine each name has its own URL. -/
theorem stream_url_safety (e : Errand) :
    ∃ url base segment, StreamUrl e.settings.engineUrl e.name url base segment ∧
      (∀ asked, e.Requests asked ↔
        e.services.behaviour.Admits e.token e.task ∧ asked = url) ∧
      ∀ f : Errand, f.settings.engineUrl = e.settings.engineUrl →
        ∀ asked other, e.Requests asked → f.Requests other →
          (asked = other ↔ e.name = f.name) := by
  refine ⟨_, _, _, streamUrl_qualify e.settings e.user.id e.stream, fun _ => e.requests_iff, ?_⟩
  intro f hf asked other ha ho
  obtain ⟨-, rfl⟩ := e.requests_iff.mp ha
  obtain ⟨-, rfl⟩ := f.requests_iff.mp ho
  exact engine_url_streamPath_inj hf.symm

namespace Detour

def who : Identifier := .asking fun _ => .ok ⟨"u-1", none⟩

def silent (_ : EngineRequest) : Except Fault Response := .ok ⟨200, "", .ok []⟩

def absent (_ : String) : Except Fault Response := .ok ⟨404, "", .ok []⟩

def view : Errand :=
  ⟨.usual, who, absent, silent, "t", .viewStream "../rules?a#%", ⟨"u-1", none⟩, "../rules?a#%",
    rfl, rfl⟩

def removal : Errand :=
  ⟨.usual, who, absent, silent, "t", .deleteStream "..", ⟨"u-1", none⟩, "..", rfl, rfl⟩

theorem led_nowhere :
    ∃ url other base segment, view.Requests url ∧ removal.Requests other ∧
      StreamUrl "http://localhost:9081" "u1_../rules?a#%" url base segment ∧ url ≠ other := by
  obtain ⟨url, base, segment, hs, hr, ha⟩ := stream_url_safety view
  have hv : view.Requests url := (hr url).mpr ⟨Behaviour.admits_of_no_channel _ _ rfl, rfl⟩
  have ho : removal.Requests (Engine.url .usual (streamPath removal.name)) :=
    removal.requests_iff.mpr ⟨Behaviour.admits_of_no_channel _ _ rfl, rfl⟩
  have hn : view.name = "u1_../rules?a#%" := rfl
  refine ⟨url, _, base, segment, hv, ho, hs, fun h => ?_⟩
  have he := (ha removal rfl _ _ hv ho).mp h
  rw [hn] at he
  exact absurd he (by decide)

end Detour

/-- The URL of a channel: the service's own and a segment that says the id. -/
structure ChannelUrl (channelsUrl id url base segment : String) : Prop where
  trimmed : Trimmed '/' channelsUrl base
  joined : url = base ++ "/channels/" ++ segment
  one : IsSegment segment
  text : Percent.decode segment = id

theorem exists_channelUrl_iff (settings : Settings) (id : String) :
    (∃ base segment, ChannelUrl settings.channelsUrl id (Channels.url settings id) base segment) ↔
      IsSegment id ∧ ¬ Percent.HasEscape id.toList := by
  constructor
  · rintro ⟨base, segment, ht, hj, ho, hx⟩
    rw [ht.eq_dropTrailing, Channels.url, String.append_right_inj] at hj
    subst hj
    exact ⟨ho, Percent.decode_eq_self_iff.mp hx⟩
  · rintro ⟨ho, hx⟩
    exact ⟨_, id, trimmed_dropTrailing '/' _, rfl, ho, Percent.decode_eq_self_iff.mpr hx⟩

theorem calls_lookup_inj (settings : Settings) (send : String → Except Fault Response)
    {id other token : String} (h : id ≠ "") :
    (Channels.lookup settings send other token).calls =
        (Channels.lookup settings send id token).calls ↔
      other = id := by
  rw [calls_lookup, calls_lookup, if_neg h]
  constructor
  · intro hc
    split at hc
    · cases hc
    · simpa [Channels.url, String.append_right_inj] using hc
  · rintro rfl
    rw [if_neg h]

/-- An id that is looked up is put into the URL as it is. No two ids are asked for alike, but the
URL is that of one channel, called by the id, only for an id that is written as one segment of a
path and has no escape in it. -/
theorem channel_url_exact (settings : Settings) (send : String → Except Fault Response)
    (id token : String) (h : id ≠ "") :
    ∃ url, (Channels.lookup settings send id token).calls =
        [.channel url ("Bearer " ++ token) settings.timeout] ∧
      ((∃ base segment, ChannelUrl settings.channelsUrl id url base segment) ↔
        IsSegment id ∧ ¬ Percent.HasEscape id.toList) ∧
      ∀ other, (Channels.lookup settings send other token).calls =
          (Channels.lookup settings send id token).calls ↔ other = id := by
  refine ⟨Channels.url settings id, ?_, exists_channelUrl_iff settings id,
    fun other => calls_lookup_inj settings send h⟩
  rw [calls_lookup, if_neg h]

theorem plain_id_located :
    "rate%" ≠ "" ∧ ∃ url, (Channels.lookup .usual Detour.absent "rate%" "t").calls =
        [.channel url "Bearer t" Settings.usual.timeout] ∧
      ∃ base segment, ChannelUrl Settings.usual.channelsUrl "rate%" url base segment := by
  have hne : "rate%" ≠ "" := by decide
  obtain ⟨url, hc, hu, -⟩ := channel_url_exact .usual Detour.absent "rate%" "t" hne
  have hs : IsSegment "rate%" := ⟨hne, by simp, by decide, by decide⟩
  have hd : Percent.decode "rate%" = "rate%" := rfl
  exact ⟨hne, url, hc, hu.mpr ⟨hs, Percent.decode_eq_self_iff.mp hd⟩⟩

theorem slash_leads_elsewhere :
    "a/b" ≠ "" ∧ ∃ url, (Channels.lookup .usual Detour.absent "a/b" "t").calls =
        [.channel url "Bearer t" Settings.usual.timeout] ∧
      ¬ ∃ base segment, ChannelUrl Settings.usual.channelsUrl "a/b" url base segment := by
  refine ⟨by decide, _, rfl, fun h => ?_⟩
  obtain ⟨hs, -⟩ := (exists_channelUrl_iff .usual "a/b").mp h
  exact hs.unmarked '/' (by decide) (by decide)

end TenantGateway
