import TenantGateway.Proofs.Content
import TenantGateway.Proofs.Reading

/-! # Views of streams and of the engine

What an answer is read as when a stream is viewed, and when the engine is asked about itself. What
is read is shown as it is, but for a stream's name, which is shown as the caller's own. The status
counts only where it says that there is no such stream.
-/
namespace TenantGateway

open Namespace Schema Text

def StreamField.DrawnFrom (v : Json) (field : StreamField) : Prop :=
  ∃ fields, v = .obj fields ∧ either fields "Name" "name" = some (.str field.name) ∧
    (either fields "FieldType" "field_type").getD .null = field.fieldType

theorem StreamField.read_eq_ok_iff {source : Source} {v : Json} {field : StreamField} :
    StreamField.read source v = .ok field ↔ field.DrawnFrom v := by
  simp only [read, readFields, record_eq_ok_iff, Reading.ap_eq_ok_iff, Reading.map_eq_ok_iff,
    required_either_eq_ok_iff, text_eq_ok_iff, DrawnFrom]
  refine exists_congr fun fields => and_congr_right fun _ => ?_
  have htype : ∀ v, optional ⟨"FieldType", some "field_type"⟩ .ok .null fields = .ok v ↔
      (either fields "FieldType" "field_type").getD .null = v := fun v => by
    rw [optional_either_eq_ok_iff rfl, Reading.ok.injEq]
  constructor
  · rintro ⟨_, v, ⟨_, ⟨_, hname, rfl⟩, rfl⟩, hv, rfl⟩
    exact ⟨hname, (htype v).mp hv⟩
  · rintro ⟨hname, hv⟩
    exact ⟨_, _, ⟨_, ⟨_, hname, rfl⟩, rfl⟩, (htype _).mpr hv, rfl⟩

/-- Fields that a stream is read from. Null stands for no schema and for no options. -/
structure Stream.DrawnFrom (fields : Json.Fields) (stream : Stream) : Prop where
  name : either fields "Name" "name" = some (.str stream.name)
  schema : ((either fields "StreamFields" "stream_fields").getD .null = .null ∧
      stream.fields = []) ∨
    ∃ items, (either fields "StreamFields" "stream_fields").getD .null = .arr items ∧
      List.Forall₂ StreamField.DrawnFrom items stream.fields
  options : ((either fields "Options" "options").getD .null = .null ∧ stream.options = []) ∨
    (either fields "Options" "options").getD .null = .obj stream.options

theorem Stream.readSchema_eq_ok_iff {source : Source} {v : Json} {schema : List StreamField} :
    Stream.readSchema source v = .ok schema ↔ (v = .null ∧ schema = []) ∨
      ∃ items, v = .arr items ∧ List.Forall₂ StreamField.DrawnFrom items schema := by
  cases v with
  | null => simp [readSchema, eq_comm]
  | _ => simp [readSchema, list_eq_ok_iff, StreamField.read_eq_ok_iff]

theorem Stream.readOptions_eq_ok_iff {v : Json} {options : Json.Fields} :
    Stream.readOptions v = .ok options ↔ (v = .null ∧ options = []) ∨ v = .obj options := by
  cases v <;> simp [readOptions, dictionary, complain, eq_comm]

theorem Stream.read_eq_ok_iff {source : Source} {v : Json} {stream : Stream} :
    Stream.read source v = .ok stream ↔ ∃ fields, v = .obj fields ∧ stream.DrawnFrom fields := by
  simp only [read, readFields, record_eq_ok_iff, Reading.ap_eq_ok_iff, Reading.map_eq_ok_iff,
    required_either_eq_ok_iff, text_eq_ok_iff]
  refine exists_congr fun fields => and_congr_right fun _ => ?_
  have hschema : ∀ schema, optional ⟨"StreamFields", some "stream_fields"⟩ (readSchema source) []
      fields = .ok schema ↔ _ := fun _ =>
    (optional_either_eq_ok_iff (show readSchema source .null = _ from rfl)).trans
      readSchema_eq_ok_iff
  have hoptions : ∀ options, optional ⟨"Options", some "options"⟩ readOptions [] fields =
      .ok options ↔ _ := fun _ =>
    (optional_either_eq_ok_iff (show readOptions .null = _ from rfl)).trans readOptions_eq_ok_iff
  constructor
  · rintro ⟨_, _, ⟨_, _, ⟨_, ⟨_, hname, rfl⟩, rfl⟩, hs, rfl⟩, ho, rfl⟩
    exact ⟨hname, (hschema _).mp hs, (hoptions _).mp ho⟩
  · intro h
    exact ⟨_, _, ⟨_, _, ⟨_, ⟨_, h.name, rfl⟩, rfl⟩, (hschema _).mpr h.schema, rfl⟩,
      (hoptions _).mpr h.options, rfl⟩

structure Info.DrawnFrom (fields : Json.Fields) (info : Info) : Prop where
  version : fields.lookup "version" = some (.str info.version)
  os : FieldIs fields "os" text (some "") info.os
  upTimeSeconds : FieldIs fields "upTimeSeconds" whole (some 0) info.upTimeSeconds

theorem Info.read_eq_ok_iff {source : Source} {v : Json} {info : Info} :
    Info.read source v = .ok info ↔ ∃ fields, v = .obj fields ∧ info.DrawnFrom fields := by
  simp only [read, readFields, record_eq_ok_iff, Reading.ap_eq_ok_iff, Reading.map_eq_ok_iff,
    required_eq_ok_iff, optional_eq_ok_iff, fieldIs_text_iff]
  refine exists_congr fun fields => and_congr_right fun _ => ?_
  constructor
  · rintro ⟨_, _, ⟨_, _, ⟨_, hversion, rfl⟩, hos, rfl⟩, htime, rfl⟩
    exact ⟨hversion, hos, htime⟩
  · intro h
    exact ⟨_, _, ⟨_, _, ⟨_, h.version, rfl⟩, h.os, rfl⟩, h.upTimeSeconds, rfl⟩

section Answer

variable {r : Response} {bs : Bytes} {user : String}

theorem streamOf_yields (user : String) (hb : r.body = .ok bs) (hs : r.status ≠ 404) :
    Yields r .malformed (fun shown => ∃ stream : Stream,
      (∃ fields, r.json = .ok (.obj fields) ∧ stream.DrawnFrom fields) ∧
        shown = { stream with name := unqualify user stream.name })
      (Services.streamOf user r) := by
  have hd : Yields r .malformed _
      (Services.decode Stream.model (Stream.read .program) .streamPayload r) :=
    decode_object_yields hb rfl fun _ _ => Stream.read_eq_ok_iff
  rw [Services.streamOf, if_neg hs]
  exact hd.map _

theorem decode_info_yields (hb : r.body = .ok bs) :
    Yields r .engine (fun info : Info =>
      ∃ fields, r.json = .ok (.obj fields) ∧ info.DrawnFrom fields)
      (Services.decode Info.model (Info.read .program) .infoPayload r) :=
  decode_object_yields hb rfl fun _ _ => Info.read_eq_ok_iff

/-- Only a stream that is not there is told of as such. -/
theorem streamOf_notFound_iff (user : String) (hb : r.body = .ok bs) :
    (∃ reason cause, Services.streamOf user r = .error (.refusal reason cause) ∧
      reason.family = .notFound) ↔ r.status = 404 := by
  by_cases hs : r.status = 404
  · rw [Services.streamOf, if_pos hs]
    exact iff_of_true ⟨_, _, rfl, rfl⟩ hs
  · refine iff_of_false ?_ hs
    rintro ⟨reason, cause, hf, hr⟩
    rcases (streamOf_yields user hb hs).fault hf with ⟨_, _, ⟨⟩, hm⟩ | ⟨_, ⟨⟩, -⟩
    cases hr.symm.trans hm

theorem streamOf_withStatus (user : String) (hs : r.status ≠ 404) {n : Int} (hn : n ≠ 404) :
    Services.streamOf user { r with status := n } = Services.streamOf user r := by
  rw [Services.streamOf, Services.streamOf, if_neg hn, if_neg hs]
  rfl

end Answer

/-- What the view of a stream comes to for a user. -/
structure Viewed (user : String) (answer : Response) (outcome : Except Fault Product) : Prop where
  absent : (∃ reason cause, outcome = .error (.refusal reason cause) ∧
    reason.family = .notFound) ↔ answer.status = 404
  present : answer.status ≠ 404 → Yields answer .malformed (fun p => ∃ stream : Stream,
    (∃ fields, answer.json = .ok (.obj fields) ∧ stream.DrawnFrom fields) ∧
      p = .stream { stream with name := unqualify user stream.name }) outcome

def viewRequest (user name : String) : EngineRequest :=
  ⟨.get, "streams/" ++ Percent.encodeSegment (qualify user name), none⟩

/-- What comes of an answer to a view of a stream, and of one to the question what the engine is. -/
structure Accounts {κ : Type} (s : Services κ) (settings : Settings) (answer : Response) :
    Prop where
  viewed : ∀ token (user : Identity) name, (s.identify token).outcome = .ok user →
    (s.engine (viewRequest user.id name)).outcome = .ok answer →
    Viewed user.id answer (s.perform settings token (.viewStream name)).outcome
  informed : (s.engine ⟨.get, "", none⟩).outcome = .ok answer →
    Yields answer .engine (fun info : Info =>
      ∃ fields, answer.json = .ok (.obj fields) ∧ info.DrawnFrom fields) s.info.outcome
  viewed_alike : ∀ (other : Services κ) (n : Int) token (user : Identity) name,
    (s.identify token).outcome = .ok user → (other.identify token).outcome = .ok user →
    (s.engine (viewRequest user.id name)).outcome = .ok answer →
    (other.engine (viewRequest user.id name)).outcome = .ok { answer with status := n } →
    answer.status ≠ 404 → n ≠ 404 →
    (other.perform settings token (.viewStream name)).outcome =
      (s.perform settings token (.viewStream name)).outcome
  informed_alike : ∀ (other : Services κ) (n : Int),
    (s.engine ⟨.get, "", none⟩).outcome = .ok answer →
    (other.engine ⟨.get, "", none⟩).outcome = .ok { answer with status := n } →
    other.info.outcome = s.info.outcome

section Accounts

variable {κ : Type} {s : Services κ} {settings : Settings} {token : String} {user : Identity}
  {answer : Response} {bs : Bytes}

theorem outcome_viewStream (hu : (s.identify token).outcome = .ok user) {name : String}
    (ha : (s.engine (viewRequest user.id name)).outcome = .ok answer) :
    (s.perform settings token (.viewStream name)).outcome =
      (Services.streamOf user.id answer).map .stream := by
  refine Services.outcome_of_answered hu ?_ ha
  exact (Services.engine_mem_questions_iff_of_no_channel (.viewStream name) hu trivial rfl
    rfl).mpr rfl

theorem outcome_info (ha : (s.engine ⟨.get, "", none⟩).outcome = .ok answer) :
    s.info.outcome = Services.decode Info.model (Info.read .program) .infoPayload answer := by
  rw [Services.info, Run.outcome_bind, ha]
  rfl

theorem viewed_streamOf (user : String) (hb : answer.body = .ok bs) :
    Viewed user answer ((Services.streamOf user answer).map .stream) := by
  constructor
  · simp only [Except.map_eq_error_iff]
    exact streamOf_notFound_iff user hb
  · intro hs
    refine ((streamOf_yields user hb hs).map Product.stream).congr fun p => ?_
    constructor
    · rintro ⟨_, ⟨stream, hf, rfl⟩, rfl⟩
      exact ⟨stream, hf, rfl⟩
    · rintro ⟨stream, hf, rfl⟩
      exact ⟨_, ⟨stream, hf, rfl⟩, rfl⟩

/-- A stream that is there is shown as it is read, under the caller's own name for it, and the
engine as it says of itself. What is not read is refused, unless it nests too deep. -/
theorem accounts_of_body (hb : answer.body = .ok bs) (s : Services κ) (settings : Settings) :
    Accounts s settings answer := by
  constructor
  · intro token user name hu ha
    rw [outcome_viewStream hu ha]
    exact viewed_streamOf user.id hb
  · intro ha
    rw [outcome_info ha]
    exact decode_info_yields hb
  · intro other n token user name hu ho ha hn hs hne
    rw [outcome_viewStream hu ha, outcome_viewStream ho hn, streamOf_withStatus user.id hs hne]
  · intro other n ha hn
    rw [outcome_info ha, outcome_info hn]
    rfl

end Accounts

namespace Account

/-- What a stream and the engine can both be read from: `{"Name":"ab_x","version":"1.2.1"}`. -/
def text : List Char :=
  '\x7b' :: Json.stringText "Name" (':' :: Json.stringText "ab_x" (',' ::
    Json.stringText "version" (':' :: Json.stringText "1.2.1" ['\x7d'])))

def fields : Json.Fields := [("Name", .str "ab_x"), ("version", .str "1.2.1")]

def answer (status : Int) : Response := ⟨status, "", .ok (Utf8.encode (String.ofList text))⟩

def services (status : Int) : Services Question := .answering (answer status)

theorem value_text (fuel room : Nat) :
    Json.value (fuel + 4) (room + 1) text = .ok (.obj fields, []) :=
  Json.value_object.trans ((Json.members_more rfl rfl (Json.value_stringText rfl) rfl).trans
    (Json.members_last rfl rfl (Json.value_stringText rfl)))

theorem json_answer (status : Int) : (answer status).json = .ok (.obj fields) := by
  obtain ⟨bs, hs⟩ : ∃ bs,
      Utf8.encode (String.ofList text) = 0x7B :: 0x22 :: 0x4E :: 0x61 :: bs := by
    rw [Utf8.encode, String.toList_ofList]
    exact ⟨_, rfl⟩
  have hp : Json.parse (String.ofList text) = .ok (.obj fields) :=
    Json.parse_of_value (by decide) rfl (value_text (2 * text.length - 2) (Json.depthLimit - 1))
  rw [Response.json_of_utf8 rfl hs rfl rfl, hp]
  rfl

theorem shown_whatever_the_status :
    (answer 500).body = .ok (Utf8.encode (String.ofList text)) ∧
      (answer 404).body = .ok (Utf8.encode (String.ofList text)) ∧
      ((services 500).perform .usual "t" (.viewStream "x")).outcome =
        .ok (.stream ⟨"x", [], []⟩) ∧
      (services 500).info.outcome = .ok ⟨"1.2.1", "", 0⟩ ∧
      (∃ reason cause, ((services 404).perform .usual "t" (.viewStream "x")).outcome =
        .error (.refusal reason cause) ∧ reason.family = .notFound) ∧
      (services 404).info.outcome = (services 500).info.outcome := by
  have h : Accounts (services 500) .usual (answer 500) := accounts_of_body rfl _ _
  have hgone : Accounts (services 404) .usual (answer 404) := accounts_of_body rfl _ _
  have hview := h.viewed "t" ⟨"a-b", none⟩ "x" rfl rfl
  have hstream : Stream.DrawnFrom fields ⟨"ab_x", [], []⟩ :=
    ⟨rfl, .inl ⟨rfl, rfl⟩, .inl ⟨rfl, rfl⟩⟩
  have hinfo : Info.DrawnFrom fields ⟨"1.2.1", "", 0⟩ := ⟨rfl, rfl, rfl⟩
  refine ⟨rfl, rfl, ?_, ?_, ?_, ?_⟩
  · refine ((hview.present (by decide)).value _).mpr ⟨_, ⟨fields, json_answer 500, hstream⟩, ?_⟩
    rw [show unqualify "a-b" "ab_x" = "x" from unqualify_qualify "a-b" "x"]
  · exact ((h.informed rfl).value _).mpr ⟨fields, json_answer 500, hinfo⟩
  · exact (hgone.viewed "t" ⟨"a-b", none⟩ "x" rfl rfl).absent.mpr rfl
  · exact h.informed_alike (services 404) 404 rfl rfl

end Account

namespace Bottomless

theorem views_come_through :
    (∃ bs, Unadmitted.bottomless.body = .ok bs) ∧ Unadmitted.bottomless.status ≠ 404 ∧
      (services.engine (viewRequest "a-b" "x")).outcome = .ok Unadmitted.bottomless ∧
      Escapes (.tooDeep .array) (services.perform .usual "t" (.viewStream "x")).outcome ∧
      (services.engine ⟨.get, "", none⟩).outcome = .ok Unadmitted.bottomless ∧
      Escapes (.tooDeep .array) services.info.outcome := by
  have hv : (services.perform .usual "t" (.viewStream "x")).outcome = .error (.tooDeep .array) := by
    have hu : (services.identify "t").outcome = .ok ⟨"a-b", none⟩ := rfl
    have ha : (services.engine (viewRequest "a-b" "x")).outcome = .ok Unadmitted.bottomless := rfl
    rw [outcome_viewStream hu ha, Services.streamOf, if_neg (by decide),
      Services.decode_of_fault Unadmitted.json_bottomless]
    rfl
  have hi : services.info.outcome = .error (.tooDeep .array) := by
    have ha : (services.engine ⟨.get, "", none⟩).outcome = .ok Unadmitted.bottomless := rfl
    rw [outcome_info ha, Services.decode_of_fault Unadmitted.json_bottomless]
    rfl
  have hn : ¬ Fault.IsRefusal (.tooDeep .array) := by
    rintro ⟨_, _, ⟨⟩⟩
  exact ⟨⟨_, rfl⟩, by decide, rfl, ⟨hv, hn⟩, rfl, hi, hn⟩

end Bottomless

end TenantGateway
