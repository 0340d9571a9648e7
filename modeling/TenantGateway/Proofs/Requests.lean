import TenantGateway.Entity.Identity
import TenantGateway.Entity.Request
import TenantGateway.Proofs.Reading

/-! # Reading requests and identities

Which fields streams are asked for with, and which an identity is described by.
-/
namespace TenantGateway

open Schema

theorem StreamRequest.read_eq_ok_iff {source : Source} {v : Json} {r : StreamRequest} :
    StreamRequest.read source v = .ok r ↔ ∃ fields, v = .obj fields ∧
      (fields.lookup "name" = some (.str r.name) ∧ r.name ≠ "") ∧
      (fields.lookup "topic" = some (.str r.topic) ∧ r.topic ≠ "") ∧
      fields.lookup "row" = some (.str r.row) ∧ r.row ≠ "" := by
  simp only [read, readFields, record_eq_ok_iff, Reading.ap_eq_ok_iff, Reading.map_eq_ok_iff,
    required_eq_ok_iff, fieldIs_nonemptyText_iff]
  refine exists_congr fun fields => and_congr_right fun _ => ?_
  constructor
  · intro h
    obtain ⟨_, _, ⟨_, _, ⟨_, hname, rfl⟩, htopic, rfl⟩, hrow, rfl⟩ := h
    exact ⟨hname, htopic, hrow⟩
  · intro h
    obtain ⟨hname, htopic, hrow⟩ := h
    exact ⟨_, _, ⟨_, _, ⟨_, hname, rfl⟩, htopic, rfl⟩, hrow, rfl⟩

theorem StreamUpdate.read_eq_ok_iff {source : Source} {v : Json} {r : StreamUpdate} :
    StreamUpdate.read source v = .ok r ↔ ∃ fields, v = .obj fields ∧
      (fields.lookup "topic" = some (.str r.topic) ∧ r.topic ≠ "") ∧
      fields.lookup "row" = some (.str r.row) ∧ r.row ≠ "" := by
  simp only [read, readFields, record_eq_ok_iff, Reading.ap_eq_ok_iff, Reading.map_eq_ok_iff,
    required_eq_ok_iff, fieldIs_nonemptyText_iff]
  refine exists_congr fun fields => and_congr_right fun _ => ?_
  constructor
  · intro h
    obtain ⟨_, _, ⟨_, htopic, rfl⟩, hrow, rfl⟩ := h
    exact ⟨htopic, hrow⟩
  · intro h
    obtain ⟨htopic, hrow⟩ := h
    exact ⟨_, _, ⟨_, htopic, rfl⟩, hrow, rfl⟩

theorem Identity.read_eq_ok_iff {source : Source} {v : Json} {identity : Identity} :
    Identity.read source v = .ok identity ↔ ∃ fields, v = .obj fields ∧
      fields.lookup "id" = some (.str identity.id) ∧
      FieldIs fields "email" textOrNull (some none) identity.email := by
  simp only [read, readFields, record_eq_ok_iff, Reading.ap_eq_ok_iff, Reading.map_eq_ok_iff,
    required_eq_ok_iff, optional_eq_ok_iff, fieldIs_text_iff]
  refine exists_congr fun fields => and_congr_right fun _ => ?_
  constructor
  · intro h
    obtain ⟨_, _, ⟨_, hid, rfl⟩, hemail, rfl⟩ := h
    exact ⟨hid, hemail⟩
  · intro h
    obtain ⟨hid, hemail⟩ := h
    exact ⟨_, _, ⟨_, hid, rfl⟩, hemail, rfl⟩

theorem StreamRequest.read_toJson {r : StreamRequest} (hn : r.name ≠ "") (ht : r.topic ≠ "")
    (hr : r.row ≠ "") (source : Source) : StreamRequest.read source r.toJson = .ok r :=
  StreamRequest.read_eq_ok_iff.mpr ⟨_, rfl, ⟨rfl, hn⟩, ⟨rfl, ht⟩, rfl, hr⟩

end TenantGateway
