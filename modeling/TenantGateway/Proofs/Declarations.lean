import TenantGateway.Proofs.Form
import TenantGateway.Proofs.Network
import TenantGateway.Proofs.Requests

/-! # Declarations

The statement that declares a stream, as a text with its parts put in as they are. The parts are
read back from it as long as none holds the mark that ends it there. Of parts that do, requests for
different channels may come to one statement.
-/
namespace TenantGateway

open Namespace Text

/-- The parts of a statement that declares a stream. -/
structure Declaration where
  name : String
  topic : String
  row : String
  format : String
  kind : String
  deriving DecidableEq

namespace Declaration

variable {d e : Declaration} {s : String}

def text (d : Declaration) : String := declaration d.name d.topic d.row d.format d.kind

/-- No part holds the mark that it ends at. -/
structure Plain (d : Declaration) : Prop where
  name : '(' ∉ d.name.toList
  row : '"' ∉ d.row.toList
  topic : '"' ∉ d.topic.toList
  format : '"' ∉ d.format.toList
  kind : '"' ∉ d.kind.toList

def holes : List Hole :=
  [⟨"create stream ".toList, [' '], '(', by decide⟩,
    ⟨[], ") WITH (DATASOURCE = ".toList, '"', by decide⟩,
    ⟨[], [], '"', by decide⟩,
    ⟨" FORMAT = \"".toList, [], '"', by decide⟩,
    ⟨" TYPE = \"".toList, [], '"', by decide⟩]

def parts (d : Declaration) : List (List Char) :=
  [d.name.toList, d.row.toList, d.topic.toList, d.format.toList, d.kind.toList]

def read? (s : String) : Option Declaration :=
  match Hole.readAll? holes s.toList with
  | some ([name, row, topic, format, kind], [')']) =>
    some ⟨.ofList name, .ofList topic, .ofList row, .ofList format, .ofList kind⟩
  | _ => none

theorem toList_text (d : Declaration) : d.text.toList = Hole.fillAll holes d.parts [')'] := by
  have hname : " (".toList = [' ', '('] := rfl
  have hrow : ") WITH (DATASOURCE = \"".toList = ") WITH (DATASOURCE = ".toList ++ ['"'] := rfl
  have htopic : "\" FORMAT = \"".toList = '"' :: " FORMAT = \"".toList := rfl
  have hformat : "\" TYPE = \"".toList = '"' :: " TYPE = \"".toList := rfl
  have hkind : "\")".toList = ['"', ')'] := rfl
  unfold text declaration
  simp only [String.toList_append, hname, hrow, htopic, hformat, hkind, holes, parts,
    Hole.fillAll, Hole.fill, List.append_assoc, List.cons_append, List.nil_append]

theorem plain_iff : d.Plain ↔ List.Forall₂ (fun h part => h.mark ∉ part) holes d.parts := by
  simp only [holes, parts, List.forall₂_cons, List.Forall₂.nil, and_true]
  constructor
  · intro h
    exact ⟨h.name, h.row, h.topic, h.format, h.kind⟩
  · rintro ⟨hn, hr, ht, hf, hk⟩
    exact ⟨hn, hr, ht, hf, hk⟩

theorem read?_eq_some_iff_holes :
    read? s = some d ↔ Hole.readAll? holes s.toList = some (d.parts, [')']) := by
  constructor
  · intro h
    unfold read? at h
    split at h
    · next hr =>
      cases h
      simpa only [parts, String.toList_ofList] using hr
    · cases h
  · intro h
    simp only [read?, h, parts, String.ofList_toList]

/-- Reading accepts the statements of plain parts, and nothing else. -/
theorem read?_eq_some_iff : read? s = some d ↔ s = d.text ∧ d.Plain := by
  rw [read?_eq_some_iff_holes, Hole.readAll?_eq_some_iff, ← toList_text, String.toList_inj,
    plain_iff]

theorem text_inj (hd : d.Plain) (he : e.Plain) : d.text = e.text ↔ d = e := by
  constructor
  · intro h
    have hread : read? d.text = some d := read?_eq_some_iff.mpr ⟨rfl, hd⟩
    rw [read?_eq_some_iff.mpr ⟨h, he⟩, Option.some.injEq] at hread
    exact hread.symm
  · rintro rfl
    rfl

def seam : String := ") WITH (DATASOURCE = \""

/-- A part of the row may as well be a part of the topic. -/
theorem text_shift (name topic row other format kind : String) :
    text ⟨name, topic, row ++ seam ++ other, format, kind⟩ =
      text ⟨name, other ++ seam ++ topic, row, format, kind⟩ := by
  unfold text declaration seam
  simp only [String.append_assoc]

end Declaration

def Task.declaration? (settings : Settings) (user : String) : Task → Option Declaration
  | .createStream name topic row | .updateStream name topic row =>
    some ⟨qualify user name, topic, row, settings.streamFormat, settings.streamKind⟩
  | .listStreams | .viewStream _ | .deleteStream _ | .createRule _ => none

section Declared

variable {κ : Type} {s : Services κ} {settings : Settings} {token user : String} {task : Task}
  {d : Declaration}

theorem Task.channel?_of_declaration (h : task.declaration? settings user = some d) :
    task.channel? = some d.topic := by
  cases task with
  | createStream | updateStream =>
    cases h
    rfl
  | listStreams | viewStream | deleteStream | createRule => cases h

theorem Task.exists_request_of_declaration (h : task.declaration? settings user = some d) :
    ∃ verb path, (task.plan settings user).request =
      .ok ⟨verb, path, some (.obj [("sql", .str d.text)])⟩ := by
  cases task with
  | createStream | updateStream =>
    cases h
    exact ⟨_, _, rfl⟩
  | listStreams | viewStream | deleteStream | createRule => cases h

theorem Task.declares {caller : Identity} (hu : (s.identify token).outcome = .ok caller)
    (h : task.declaration? settings caller.id = some d) {request : EngineRequest}
    (hr : .engine request ∈ s.questions settings token task) :
    request.body = some (.obj [("sql", .str d.text)]) ∧
      .channel d.topic token ∈ s.questions settings token task ∧
      ∃ found, (s.channel d.topic token).outcome = .ok found := by
  have hcourse := perform_course s.behaviour settings token task
  have hc := Task.channel?_of_declaration h
  obtain ⟨verb, path, hp⟩ := Task.exists_request_of_declaration h
  obtain ⟨hadmits, -, hplan⟩ := (Services.engine_mem_questions_iff hu).mp hr
  cases hp.symm.trans hplan
  exact ⟨rfl, (hcourse.channel_mem_iff d.topic token).mpr ⟨⟨caller, hu⟩, rfl, hc⟩, hadmits _ hc⟩

end Declared

namespace Seam

def first : StreamRequest := ⟨"rain", "c", "level float" ++ Declaration.seam ++ "d"⟩

/-- The row ends earlier, and the topic takes what is left of it. -/
def second : StreamRequest := ⟨"rain", "d" ++ Declaration.seam ++ "c", "level float"⟩

end Seam

/-- Two requests for a stream, of which the engine is asked the same whether it is created or
changed. -/
structure Indistinct {κ : Type} (s : Services κ) (settings : Settings) (token : String)
    (r q : StreamRequest) : Prop where
  created : ∃ request,
    .engine request ∈ s.questions settings token (.createStream r.name r.topic r.row) ∧
      .engine request ∈ s.questions settings token (.createStream q.name q.topic q.row)
  updated : ∃ request,
    .engine request ∈ s.questions settings token (.updateStream r.name r.topic r.row) ∧
      .engine request ∈ s.questions settings token (.updateStream q.name q.topic q.row)

section Indistinct

variable {κ : Type} {s : Services κ} {settings : Settings} {token : String} {caller : Identity}

theorem Services.engine_mem_questions_of_found {task : Task} {id : String} {found : Json}
    {sent : EngineRequest} (hu : (s.identify token).outcome = .ok caller)
    (hid : task.channel? = some id) (hfound : (s.channel id token).outcome = .ok found)
    (hp : (task.plan settings caller.id).request = .ok sent) :
    .engine sent ∈ s.questions settings token task :=
  (engine_mem_questions_iff_of_plan task hu (Task.hasAction_of_channel? hid) hp).mpr
    ⟨Behaviour.admits_of_found hid hfound, rfl⟩

theorem indistinct_of_text {r q : StreamRequest} (hu : (s.identify token).outcome = .ok caller)
    (hr : ∃ found, (s.channel r.topic token).outcome = .ok found)
    (hq : ∃ found, (s.channel q.topic token).outcome = .ok found) (hname : r.name = q.name)
    (ht : ∀ name format kind, Declaration.text ⟨name, r.topic, r.row, format, kind⟩ =
      Declaration.text ⟨name, q.topic, q.row, format, kind⟩) :
    Indistinct s settings token r q := by
  have hbody : Services.declarationBody settings (qualify caller.id q.name) q.topic q.row =
      Services.declarationBody settings (qualify caller.id r.name) r.topic r.row := by
    rw [hname]
    exact congrArg (fun sql => Json.obj [("sql", .str sql)]) (ht _ _ _).symm
  obtain ⟨_, hr⟩ := hr
  obtain ⟨_, hq⟩ := hq
  constructor
  · refine ⟨_, Services.engine_mem_questions_of_found hu rfl hr rfl,
      Services.engine_mem_questions_of_found hu rfl hq ?_⟩
    rw [Task.plan, Plan.change, hbody]
  · refine ⟨_, Services.engine_mem_questions_of_found hu rfl hr rfl,
      Services.engine_mem_questions_of_found hu rfl hq ?_⟩
    rw [Task.plan, Plan.change, hbody, hname]

/-- Of plain parts a known caller's statement says what is declared, for the channel that was found.
Of other parts it does not say which channel that was. -/
theorem declarations_told_apart (hu : (s.identify token).outcome = .ok caller)
    (settings : Settings) :
    (∀ d e : Declaration, d.Plain → e.Plain → (d.text = e.text ↔ d = e)) ∧
    (∀ statement d, Declaration.read? statement = some d ↔ statement = d.text ∧ d.Plain) ∧
    (∀ task d request, task.declaration? settings caller.id = some d → d.Plain →
      .engine request ∈ s.questions settings token task →
      ∃ statement, request.body = some (.obj [("sql", .str statement)]) ∧
        Declaration.read? statement = some d ∧
        .channel d.topic token ∈ s.questions settings token task ∧
        ∃ found, (s.channel d.topic token).outcome = .ok found) ∧
    ∃ r q : StreamRequest,
      StreamRequest.read .caller r.toJson = .ok r ∧ StreamRequest.read .caller q.toJson = .ok q ∧
      r.name = q.name ∧ '(' ∉ r.name.toList ∧
      ('(' ∉ caller.id.toList → '(' ∉ (qualify caller.id r.name).toList) ∧ r.topic ≠ q.topic ∧
      (∀ name format kind, Declaration.text ⟨name, r.topic, r.row, format, kind⟩ =
        Declaration.text ⟨name, q.topic, q.row, format, kind⟩) ∧
      ((∃ found, (s.channel r.topic token).outcome = .ok found) →
        (∃ found, (s.channel q.topic token).outcome = .ok found) →
        Indistinct s settings token r q) := by
  refine ⟨fun _ _ => Declaration.text_inj, fun _ _ => Declaration.read?_eq_some_iff, ?_, ?_⟩
  · intro task d request hd hplain hr
    obtain ⟨hbody, hchannel, hfound⟩ := Task.declares hu hd hr
    exact ⟨d.text, hbody, Declaration.read?_eq_some_iff.mpr ⟨rfl, hplain⟩, hchannel, hfound⟩
  · have ht : ∀ name format kind, Declaration.text ⟨name, Seam.first.topic, Seam.first.row, format,
        kind⟩ = Declaration.text ⟨name, Seam.second.topic, Seam.second.row, format, kind⟩ :=
      fun name => Declaration.text_shift name "c" "level float" "d"
    refine ⟨Seam.first, Seam.second,
      StreamRequest.read_toJson (by decide) (by decide) (by decide) _,
      StreamRequest.read_toJson (by decide) (by decide) (by decide) _, rfl, by decide, ?_,
      by decide, ht, fun hr hq => indistinct_of_text hu hr hq rfl ht⟩
    intro hid
    simp only [toList_qualify, toList_tag, toList_compact, List.mem_append, List.mem_filter]
    rintro ((⟨hc, -⟩ | hc) | hc)
    · exact hid hc
    · exact absurd hc (by decide)
    · exact absurd hc (by decide)

end Indistinct

namespace Seam

def declared : Declaration :=
  ⟨"ab_rain", "c", "level float) WITH (DATASOURCE = c", "json", "mainflux"⟩

def creation : Task := .createStream "rain" declared.topic declared.row

def services : Services Question :=
  Behaviour.services ⟨fun _ => .ok ⟨"a-b", none⟩, fun _ _ => .ok .null,
    fun _ => .ok ⟨201, "", .ok []⟩⟩

theorem plain_declared : declared.Plain := by
  constructor <;> decide

theorem read_or_confused :
    (services.identify "t").outcome = .ok ⟨"a-b", none⟩ ∧
      creation.declaration? .usual "a-b" = some declared ∧ declared.Plain ∧
      (∃ request statement, .engine request ∈ services.questions .usual "t" creation ∧
        request.body = some (.obj [("sql", .str statement)]) ∧
        Declaration.read? statement = some declared) ∧
      ∃ r q : StreamRequest, r.name = q.name ∧ r.topic ≠ q.topic ∧
        Indistinct services .usual "t" r q := by
  have hu : (services.identify "t").outcome = .ok ⟨"a-b", none⟩ := rfl
  have hfound : ∀ id, ∃ found, (services.channel id "t").outcome = .ok found :=
    fun _ => ⟨.null, rfl⟩
  obtain ⟨-, -, hread, r, q, -, -, hname, -, -, htopic, -, hi⟩ :=
    declarations_told_apart hu .usual
  have hc : (services.channel declared.topic "t").outcome = .ok .null := rfl
  have hr : .engine ⟨.post, "streams", some (.obj [("sql", .str declared.text)])⟩ ∈
      services.questions .usual "t" creation :=
    Services.engine_mem_questions_of_found hu rfl hc rfl
  obtain ⟨statement, hbody, hs, -⟩ := hread creation declared _ rfl plain_declared hr
  exact ⟨hu, rfl, plain_declared, ⟨_, statement, hr, hbody, hs⟩, r, q, hname, htopic,
    hi (hfound _) (hfound _)⟩

end Seam

end TenantGateway
