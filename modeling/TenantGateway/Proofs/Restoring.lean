import TenantGateway.Proofs.Requests
import TenantGateway.Proofs.RuleRequests
import TenantGateway.Proofs.Views

/-! # Writing and reading again

What was read is written with every field it has, under the engine's keys where it has such, and is
read the same again. So nothing that reading puts up with (fields left out, null for none, numbers
in other forms, keys that nobody asks for) makes a difference from then on.
-/
namespace TenantGateway

open Schema

theorem StreamField.drawnFrom_toJson (field : StreamField) : field.DrawnFrom field.toJson :=
  ⟨_, rfl, rfl, rfl⟩

theorem Stream.drawnFrom_toJson (stream : Stream) : stream.DrawnFrom
    [("Name", .str stream.name), ("StreamFields", .arr (stream.fields.map StreamField.toJson)),
      ("Options", .obj stream.options)] := by
  constructor
  · rfl
  · refine .inr ⟨_, rfl, ?_⟩
    rw [List.forall₂_map_left_iff, List.forall₂_same]
    intro field _
    exact field.drawnFrom_toJson
  · exact .inr rfl

theorem Info.drawnFrom_toJson (info : Info) : info.DrawnFrom
    [("version", .str info.version), ("os", .str info.os),
      ("upTimeSeconds", .int info.upTimeSeconds)] := by
  constructor <;> exact rfl

/-- Values are written under all of their keys. One that was read is read the same again from what
is written for it, whoever hands it in. -/
structure Restored {α : Type} (keys : List String) (read : Source → Json → Reading α)
    (write : α → Json) : Prop where
  written : ∀ a, ∃ fields, write a = .obj fields ∧ fields.map Prod.fst = keys
  restored : ∀ {source v a}, read source v = .ok a → ∀ other, read other (write a) = .ok a

theorem Restored.of_read {α : Type} {keys : List String} {read : Source → Json → Reading α}
    {write : α → Json} (hw : ∀ a, ∃ fields, write a = .obj fields ∧ fields.map Prod.fst = keys)
    (hr : ∀ source a, read source (write a) = .ok a) : Restored keys read write := by
  constructor
  · exact hw
  · intro _ _ a _ other
    exact hr other a

theorem Stream.restored :
    Restored ["Name", "StreamFields", "Options"] Stream.read Stream.toJson := by
  refine .of_read (fun _ => ⟨_, rfl, rfl⟩) ?_
  intro source stream
  exact Stream.read_eq_ok_iff.mpr ⟨_, rfl, stream.drawnFrom_toJson⟩

theorem StreamField.restored :
    Restored ["Name", "FieldType"] StreamField.read StreamField.toJson := by
  refine .of_read (fun _ => ⟨_, rfl, rfl⟩) ?_
  intro source field
  exact StreamField.read_eq_ok_iff.mpr field.drawnFrom_toJson

theorem Rule.restored : Restored ["id", "sql", "actions"] Rule.read Rule.toJson := by
  refine .of_read (fun _ => ⟨_, rfl, rfl⟩) ?_
  intro source rule
  exact rule.read_toJson source

theorem Action.restored : Restored ["mainflux"] Action.read Action.toJson := by
  refine .of_read (fun _ => ⟨_, rfl, rfl⟩) ?_
  intro source action
  exact Action.read_eq_ok_iff.mpr action.drawnFrom_toJson

theorem Sink.restored :
    Restored ["host", "port", "channel", "subtopic", "username", "password"] Sink.read
      Sink.toJson := by
  refine .of_read (fun _ => ⟨_, rfl, rfl⟩) ?_
  intro source sink
  exact Sink.read_eq_ok_iff.mpr ⟨_, rfl, sink.drawnFrom_toJson⟩

theorem Info.restored : Restored ["version", "os", "upTimeSeconds"] Info.read Info.toJson := by
  refine .of_read (fun _ => ⟨_, rfl, rfl⟩) ?_
  intro source info
  exact Info.read_eq_ok_iff.mpr ⟨_, rfl, info.drawnFrom_toJson⟩

theorem Identity.restored : Restored ["id", "email"] Identity.read Identity.toJson := by
  refine .of_read (fun _ => ⟨_, rfl, rfl⟩) ?_
  intro source identity
  refine Identity.read_eq_ok_iff.mpr ⟨_, rfl, rfl, ?_⟩
  refine textOrNull_eq_ok_iff.mpr ?_
  cases identity.email <;> rfl

theorem StreamRequest.restored :
    Restored ["name", "topic", "row"] StreamRequest.read StreamRequest.toJson := by
  constructor
  · intro r
    exact ⟨_, rfl, rfl⟩
  · intro source v r h other
    obtain ⟨_, -, ⟨-, hname⟩, ⟨-, htopic⟩, -, hrow⟩ := StreamRequest.read_eq_ok_iff.mp h
    exact StreamRequest.read_toJson hname htopic hrow other

theorem StreamUpdate.restored :
    Restored ["topic", "row"] StreamUpdate.read StreamUpdate.toJson := by
  constructor
  · intro r
    exact ⟨_, rfl, rfl⟩
  · intro source v r h other
    obtain ⟨_, -, ⟨-, htopic⟩, -, hrow⟩ := StreamUpdate.read_eq_ok_iff.mp h
    exact StreamUpdate.read_eq_ok_iff.mpr ⟨_, rfl, ⟨rfl, htopic⟩, rfl, hrow⟩

/-- Whatever was read is read the same again from what is written for it. -/
theorem reading_is_restored :
    Restored ["Name", "StreamFields", "Options"] Stream.read Stream.toJson ∧
    Restored ["Name", "FieldType"] StreamField.read StreamField.toJson ∧
    Restored ["id", "sql", "actions"] Rule.read Rule.toJson ∧
    Restored ["mainflux"] Action.read Action.toJson ∧
    Restored ["host", "port", "channel", "subtopic", "username", "password"] Sink.read
      Sink.toJson ∧
    Restored ["name", "topic", "row"] StreamRequest.read StreamRequest.toJson ∧
    Restored ["topic", "row"] StreamUpdate.read StreamUpdate.toJson ∧
    Restored ["version", "os", "upTimeSeconds"] Info.read Info.toJson ∧
    Restored ["id", "email"] Identity.read Identity.toJson :=
  ⟨Stream.restored, StreamField.restored, Rule.restored, Action.restored, Sink.restored,
    StreamRequest.restored, StreamUpdate.restored, Info.restored, Identity.restored⟩

example : Info.read .program (.obj [("upTimeSeconds", .str " +007.0 "), ("version", .str "1"),
    ("os", .str ""), ("load", .null)]) = .ok ⟨"1", "", 7⟩ := rfl

/-- Rules in requests are the exception: a list of actions that was left out is written, and then
it is looked at. -/
theorem Rule.readRequest_toJson_iff {source : Source} {rule : Rule} :
    Rule.readRequest source rule.toJson = .ok rule ↔ rule.actions ≠ [] := by
  rw [Rule.readRequest_eq_ok_iff]
  constructor
  · intro h ha
    cases h.2 ha
  · intro ha
    exact ⟨rule.read_toJson source, fun he => absurd he ha⟩

end TenantGateway
