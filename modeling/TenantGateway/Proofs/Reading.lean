import Mathlib.Data.List.Forall2
import TenantGateway.Schema.Reading

/-! # Laws of readers

When a reader succeeds, and with what. Fields that a record does not ask for do not matter to it.
-/
namespace TenantGateway.Schema

variable {α β : Type}

namespace Reading

theorem map_eq_ok_iff {f : α → β} {x : Reading α} {b : β} :
    x.map f = .ok b ↔ ∃ a, x = .ok a ∧ f a = b := by
  cases x <;> simp [map]

theorem ap_eq_ok_iff {f : Reading (α → β)} {x : Reading α} {b : β} :
    f.ap x = .ok b ↔ ∃ g a, f = .ok g ∧ x = .ok a ∧ g a = b := by
  cases f <;> cases x <;> simp [ap]

theorem under_eq_ok_iff {x : Reading α} {step : Step} {a : α} :
    x.under step = .ok a ↔ x = .ok a := by
  cases x <;> simp [under]

end Reading

theorem text_eq_ok_iff {v : Json} {s : String} : text v = .ok s ↔ v = .str s := by
  cases v <;> simp [text, complain]

theorem nonemptyText_eq_ok_iff {v : Json} {s : String} :
    nonemptyText v = .ok s ↔ v = .str s ∧ s ≠ "" := by
  cases v with
  | str t =>
    by_cases ht : t = ""
    · simp [nonemptyText, complain, ht, eq_comm]
    · simp only [nonemptyText, if_neg ht, Reading.ok.injEq, Json.str.injEq]
      constructor
      · rintro rfl
        exact ⟨rfl, ht⟩
      · exact And.left
  | _ => simp [nonemptyText, complain]

theorem textOrNull_eq_ok_iff {v : Json} {s : Option String} :
    textOrNull v = .ok s ↔ v = s.elim .null .str := by
  cases v with
  | null | str => cases s <;> simp [textOrNull, eq_comm]
  | _ => cases s <;> simp [textOrNull, complain]

theorem itemsFrom_eq_ok_iff {read : Json → Reading α} {i : Nat} {items : List Json} {as : List α} :
    itemsFrom read i items = .ok as ↔ List.Forall₂ (fun v a => read v = .ok a) items as := by
  induction items generalizing i as with
  | nil => simp [itemsFrom, eq_comm]
  | cons v rest ih =>
    simp only [itemsFrom, Reading.ap_eq_ok_iff, Reading.map_eq_ok_iff, Reading.under_eq_ok_iff, ih,
      List.forall₂_cons_left_iff]
    constructor
    · rintro ⟨_, tail, ⟨a, ha, rfl⟩, ht, rfl⟩
      exact ⟨a, tail, ha, ht, rfl⟩
    · rintro ⟨a, tail, ha, ht, rfl⟩
      exact ⟨_, tail, ⟨a, ha, rfl⟩, ht, rfl⟩

theorem list_eq_ok_iff {read : Json → Reading α} {v : Json} {as : List α} :
    list read v = .ok as ↔
      ∃ items, v = .arr items ∧ List.Forall₂ (fun v a => read v = .ok a) items as := by
  cases v <;> simp [list, complain, itemsFrom_eq_ok_iff]

theorem record_eq_ok_iff {source : Source} {model : String} {read : Json.Fields → Reading α}
    {v : Json} {a : α} :
    record source model read v = .ok a ↔ ∃ fields, v = .obj fields ∧ read fields = .ok a := by
  cases v <;> simp [record, complain]

/-- The field of a name is read as a value, or it is left out and the value stands for that. -/
def FieldIs (fields : Json.Fields) (name : String) (read : Json → Reading α) (absent : Option α)
    (a : α) : Prop :=
  match fields.lookup name with
  | some v => read v = .ok a
  | none => absent = some a

section Field

variable {fields : Json.Fields} {name : String} {read : Json → Reading α} {absent a : α}

theorem find?_single :
    Key.find? ⟨name, none⟩ fields = (fields.lookup name).map fun v => (name, v) := by
  unfold Key.find?
  cases fields.lookup name <;> rfl

theorem required_eq_ok_iff :
    required ⟨name, none⟩ read fields = .ok a ↔ FieldIs fields name read none a := by
  rw [required, find?_single, FieldIs]
  cases fields.lookup name <;> simp [Reading.under_eq_ok_iff]

theorem optional_eq_ok_iff :
    optional ⟨name, none⟩ read absent fields = .ok a ↔
      FieldIs fields name read (some absent) a := by
  rw [optional, find?_single, FieldIs]
  cases fields.lookup name <;> simp [Reading.under_eq_ok_iff]

theorem fieldIs_text_iff {s : String} :
    FieldIs fields name text none s ↔ fields.lookup name = some (.str s) := by
  unfold FieldIs
  split
  · next v hv => rw [text_eq_ok_iff, hv, Option.some.injEq]
  · next hv => simp [hv]

theorem fieldIs_nonemptyText_iff {s : String} :
    FieldIs fields name nonemptyText none s ↔ fields.lookup name = some (.str s) ∧ s ≠ "" := by
  unfold FieldIs
  split
  · next v hv => rw [nonemptyText_eq_ok_iff, hv, Option.some.injEq]
  · next hv => simp [hv]

def either (fields : Json.Fields) (name other : String) : Option Json :=
  (fields.lookup name).or (fields.lookup other)

variable {other : String}

theorem exists_find?_eq (fields : Json.Fields) (name other : String) :
    ∃ key, Key.find? ⟨name, some other⟩ fields =
      (either fields name other).map fun v => (key, v) := by
  unfold Key.find? either
  cases fields.lookup name with
  | some v => exact ⟨name, rfl⟩
  | none => exact ⟨other, rfl⟩

theorem required_either_eq_ok_iff :
    required ⟨name, some other⟩ read fields = .ok a ↔
      ∃ v, either fields name other = some v ∧ read v = .ok a := by
  obtain ⟨key, hk⟩ := exists_find?_eq fields name other
  rw [required, hk]
  cases either fields name other <;> simp [Reading.under_eq_ok_iff]

/-- A field of which null says the same as its absence. -/
theorem optional_either_eq_ok_iff (hnull : read .null = .ok absent) :
    optional ⟨name, some other⟩ read absent fields = .ok a ↔
      read ((either fields name other).getD .null) = .ok a := by
  obtain ⟨key, hk⟩ := exists_find?_eq fields name other
  rw [optional, hk]
  cases either fields name other <;> simp [Reading.under_eq_ok_iff, hnull]

end Field

end TenantGateway.Schema
