import Mathlib.Logic.Relation
import TenantGateway.Proofs.Views

/-! # Descriptions of one stream

A stream can be described in more than one way. Every part has two names, and a schema or options
that are null or empty say as much as none at all. However such descriptions are mixed, in the
stream itself and in any of its fields, they describe one stream. Where only the second kind of
difference is made, a description that is refused is refused for the same reasons.
-/
namespace TenantGateway

open Relation Schema

namespace Json

def rename (name other : String) (fields : Fields) : Fields :=
  fields.map fun (key, v) => (if key = name then other else key, v)

section Lookup

variable {name other key : String} {v : Json} {fields front back : Fields}

theorem lookup_cons_of_ne (h : key ≠ name) :
    ((name, v) :: fields).lookup key = fields.lookup key := by
  rw [List.lookup_cons, beq_eq_false_iff_ne.mpr h]

/-- An object that did not have the new name has under it what it had under the old one. -/
theorem lookup_rename_new (h : fields.lookup other = none) :
    (rename name other fields).lookup other = fields.lookup name := by
  induction fields with
  | nil => rfl
  | cons field rest ih =>
    obtain ⟨first, v⟩ := field
    have hf : other ≠ first := by
      intro he
      simp [he] at h
    rw [lookup_cons_of_ne hf] at h
    by_cases hn : first = name
    · simp [rename, hn]
    · have hr : rename name other ((first, v) :: rest) = (first, v) :: rename name other rest := by
        simp [rename, hn]
      rw [hr, lookup_cons_of_ne hf, lookup_cons_of_ne (Ne.symm hn), ih h]

theorem lookup_rename_old (h : name ≠ other) : (rename name other fields).lookup name = none := by
  rw [List.lookup_eq_none_iff]
  intro field hf
  obtain ⟨⟨first, v⟩, -, rfl⟩ := List.mem_map.mp hf
  by_cases hn : first = name
  · simpa [hn] using h
  · simpa [hn] using Ne.symm hn

theorem lookup_rename_of_ne (hn : key ≠ name) (ho : key ≠ other) :
    (rename name other fields).lookup key = fields.lookup key := by
  induction fields with
  | nil => rfl
  | cons field rest ih =>
    obtain ⟨first, v⟩ := field
    have hr : rename name other ((first, v) :: rest) =
        (if first = name then other else first, v) :: rename name other rest := rfl
    rw [hr]
    by_cases hf : first = name
    · rw [if_pos hf, hf, lookup_cons_of_ne ho, lookup_cons_of_ne hn, ih]
    · rw [if_neg hf, List.lookup_cons, List.lookup_cons, ih]

theorem lookup_insert_of_ne (h : key ≠ name) :
    (front ++ (name, v) :: back).lookup key = (front ++ back).lookup key := by
  rw [List.lookup_append, lookup_cons_of_ne h, List.lookup_append]

theorem lookup_insert_new (h : (front ++ back).lookup name = none) :
    (front ++ (name, v) :: back).lookup name = some v := by
  rw [List.lookup_append, Option.or_eq_none_iff] at h
  rw [List.lookup_append, h.1, Option.none_or, List.lookup_cons_self]

theorem lookup_replace (front back : Fields) (name key : String) (v w : Json) :
    (front ++ (name, v) :: back).lookup key = (front ++ (name, w) :: back).lookup key ∨
    key = name ∧ (front ++ (name, v) :: back).lookup key = some v ∧
      (front ++ (name, w) :: back).lookup key = some w := by
  by_cases hk : key = name
  · subst key
    rw [List.lookup_append, List.lookup_append, List.lookup_cons_self, List.lookup_cons_self]
    cases front.lookup name with
    | some x => exact .inl rfl
    | none => exact .inr ⟨rfl, rfl, rfl⟩
  · left
    rw [lookup_insert_of_ne hk, lookup_insert_of_ne hk]

end Lookup

end Json

namespace Schema

section Either

variable {name other : String} {fields : Json.Fields}

theorem either_eq_none_iff : either fields name other = none ↔
    fields.lookup name = none ∧ fields.lookup other = none := by
  rw [either, Option.or_eq_none_iff]

theorem either_rename (hne : name ≠ other) (h : fields.lookup other = none) :
    either (Json.rename name other fields) name other = either fields name other := by
  rw [either, either, Json.lookup_rename_old hne, Json.lookup_rename_new h, h, Option.none_or,
    Option.or_none]

theorem either_replace (front back : Json.Fields) (key name other : String) (v w : Json) :
    either (front ++ (key, v) :: back) name other = either (front ++ (key, w) :: back) name other ∨
    (key = name ∨ key = other) ∧ either (front ++ (key, v) :: back) name other = some v ∧
      either (front ++ (key, w) :: back) name other = some w := by
  unfold either
  rcases Json.lookup_replace front back key name v w with hn | ⟨hk, hv, hw⟩
  · rcases Json.lookup_replace front back key other v w with ho | ⟨hk, hv, hw⟩
    · left
      rw [hn, ho]
    · rw [hn, hv, hw]
      cases (front ++ (key, w) :: back).lookup name with
      | some x => exact .inl rfl
      | none => exact .inr ⟨.inr hk.symm, rfl, rfl⟩
  · right
    rw [hv, hw]
    exact ⟨.inl hk.symm, rfl, rfl⟩

end Either

/-- Names, each with its second one, none of which stands for two things. -/
def Distinct (names : List (String × String)) : Prop :=
  ∀ p ∈ names, p.1 ≠ p.2 ∧
    ∀ q ∈ names, q = p ∨ (q.1 ≠ p.1 ∧ q.1 ≠ p.2) ∧ q.2 ≠ p.1 ∧ q.2 ≠ p.2

instance (names : List (String × String)) : Decidable (Distinct names) :=
  inferInstanceAs (Decidable (∀ p ∈ names, p.1 ≠ p.2 ∧
    ∀ q ∈ names, q = p ∨ (q.1 ≠ p.1 ∧ q.1 ≠ p.2) ∧ q.2 ≠ p.1 ∧ q.2 ≠ p.2))

/-- A name in an object gives way to the second one, which the object did not have. -/
inductive Renamed (names : List (String × String)) : Json.Fields → Json.Fields → Prop where
  | second {name other fields} : (name, other) ∈ names → fields.lookup other = none →
      Renamed names fields (Json.rename name other fields)

theorem Renamed.either_eq {names : List (String × String)} {a b : Json.Fields}
    (h : Renamed names a b) (hd : Distinct names) {p : String × String} (hp : p ∈ names) :
    either a p.1 p.2 = either b p.1 p.2 := by
  cases h with
  | second hm ho =>
    obtain ⟨hne, hapart⟩ := hd _ hm
    rcases hapart p hp with rfl | ⟨⟨h1, h2⟩, h3, h4⟩
    · exact (either_rename hne ho).symm
    · rw [either, either, Json.lookup_rename_of_ne h1 h2, Json.lookup_rename_of_ne h3 h4]

/-- A problem, but for the object itself, which it quotes where a field is missing from it. -/
def Problem.unquoted (p : Problem) : Problem :=
  if p.complaint = .missing ∧ p.location.length = 1 then { p with input := .null } else p

def Reading.unquoted {α : Type} : Reading α → Reading α
  | .ok a => .ok a
  | .error ps => .error (ps.map Problem.unquoted)

section Unquoted

variable {α β : Type}

theorem Reading.unquoted_map (f : α → β) (x : Reading α) :
    (x.map f).unquoted = x.unquoted.map f := by
  cases x <;> rfl

theorem Reading.unquoted_ap (f : Reading (α → β)) (x : Reading α) :
    (f.ap x).unquoted = f.unquoted.ap x.unquoted := by
  cases f <;> cases x <;> simp [ap, unquoted]

theorem Reading.unquoted_eq_ok_iff {x : Reading α} {a : α} : x.unquoted = .ok a ↔ x = .ok a := by
  cases x <;> simp [unquoted]

variable {k : Key} {read : Json → Reading α} {absent : α} {a b : Json.Fields}

theorem unquoted_required_congr (h : k.find? a = k.find? b) :
    (required k read a).unquoted = (required k read b).unquoted := by
  rw [required, required, h]
  cases k.find? b <;> rfl

theorem optional_congr (h : k.find? a = k.find? b) :
    optional k read absent a = optional k read absent b := by
  rw [optional, optional, h]

theorem optional_eq_absent {name other : String} (h : either a name other = none) :
    optional ⟨name, some other⟩ read absent a = .ok absent := by
  obtain ⟨key, hk⟩ := exists_find?_eq a name other
  rw [optional, hk, h]
  rfl

theorem optional_insert {name other : String} {front back : Json.Fields} {v : Json}
    (h : either (front ++ back) name other = none) (hv : read v = .ok absent) :
    optional ⟨name, some other⟩ read absent (front ++ (name, v) :: back) = .ok absent := by
  rw [optional, Key.find?, Json.lookup_insert_new (either_eq_none_iff.mp h).1]
  exact Reading.under_eq_ok_iff.mpr hv

theorem find?_insert {name other key : String} (hn : name ≠ key) (ho : other ≠ key)
    (front back : Json.Fields) (v : Json) :
    Key.find? ⟨name, some other⟩ (front ++ back) =
      Key.find? ⟨name, some other⟩ (front ++ (key, v) :: back) := by
  simp only [Key.find?, Option.bind_some, Json.lookup_insert_of_ne hn, Json.lookup_insert_of_ne ho]

end Unquoted

end Schema

def StreamField.names : List (String × String) := [("Name", "name"), ("FieldType", "field_type")]

def Stream.names : List (String × String) :=
  [("Name", "name"), ("StreamFields", "stream_fields"), ("Options", "options")]

inductive Stream.Filled : Json.Fields → Json.Fields → Prop where
  | schema {front back v} : either (front ++ back) "StreamFields" "stream_fields" = none →
      v = .null ∨ v = .arr [] → Filled (front ++ back) (front ++ ("StreamFields", v) :: back)
  | options {front back v} : either (front ++ back) "Options" "options" = none →
      v = .null ∨ v = .obj [] → Filled (front ++ back) (front ++ ("Options", v) :: back)

/-- One change to the description of a stream: to what is left out, to a name in the stream or to
a name in one of its fields. -/
inductive Stream.Reworded : Json.Fields → Json.Fields → Prop where
  | filled {a b} : Filled a b → Reworded a b
  | renamed {a b} : Renamed names a b → Reworded a b
  | field {key front back before after a b} : key = "StreamFields" ∨ key = "stream_fields" →
      Renamed StreamField.names a b →
      Reworded (front ++ (key, .arr (before ++ .obj a :: after)) :: back)
        (front ++ (key, .arr (before ++ .obj b :: after)) :: back)

section Descriptions

variable {source : Source} {stream : Stream} {field : StreamField} {a b front back : Json.Fields}

/-- What is left out and what is given as nothing come to the same, also where something else is
wrong. -/
theorem Stream.Filled.unquoted_read (h : Filled a b) :
    (read source (.obj a)).unquoted = (read source (.obj b)).unquoted := by
  cases h with
  | @schema front back v hn hv =>
    have hs : readSchema source v = .ok [] := by
      rcases hv with rfl | rfl <;> rfl
    have hname := find?_insert (show "Name" ≠ "StreamFields" by decide)
      (show "name" ≠ _ by decide) front back v
    have hoptions := find?_insert (show "Options" ≠ "StreamFields" by decide)
      (show "options" ≠ _ by decide) front back v
    simp only [read, record, readFields, Reading.unquoted_ap, Reading.unquoted_map]
    rw [unquoted_required_congr hname, optional_congr hoptions, optional_eq_absent hn,
      optional_insert hn hs]
  | @options front back v hn hv =>
    have ho : readOptions v = .ok [] := by
      rcases hv with rfl | rfl <;> rfl
    have hname := find?_insert (show "Name" ≠ "Options" by decide)
      (show "name" ≠ _ by decide) front back v
    have hschema := find?_insert (show "StreamFields" ≠ "Options" by decide)
      (show "stream_fields" ≠ _ by decide) front back v
    simp only [read, record, readFields, Reading.unquoted_ap, Reading.unquoted_map]
    rw [unquoted_required_congr hname, optional_congr hschema, optional_eq_absent hn,
      optional_insert hn ho]

theorem StreamField.drawnFrom_renamed (h : Renamed names a b) :
    field.DrawnFrom (.obj a) ↔ field.DrawnFrom (.obj b) := by
  have hd : Distinct names := by decide
  have hname : either a "Name" "name" = either b "Name" "name" :=
    h.either_eq hd (p := ("Name", "name")) (by decide)
  have htype : either a "FieldType" "field_type" = either b "FieldType" "field_type" :=
    h.either_eq hd (p := ("FieldType", "field_type")) (by decide)
  simp only [DrawnFrom, Json.obj.injEq, exists_eq_left', hname, htype]

theorem StreamField.forall₂_renamed (h : Renamed names a b) (before after : List Json)
    (schema : List StreamField) :
    List.Forall₂ DrawnFrom (before ++ .obj a :: after) schema ↔
      List.Forall₂ DrawnFrom (before ++ .obj b :: after) schema := by
  induction before generalizing schema with
  | nil => simp only [List.nil_append, List.forall₂_cons_left_iff, drawnFrom_renamed h]
  | cons v rest ih => simp only [List.cons_append, List.forall₂_cons_left_iff, ih]

theorem Stream.drawnFrom_congr (source : Source)
    (hname : either a "Name" "name" = either b "Name" "name")
    (hschema : ∀ schema,
      readSchema source ((either a "StreamFields" "stream_fields").getD .null) = .ok schema ↔
        readSchema source ((either b "StreamFields" "stream_fields").getD .null) = .ok schema)
    (hoptions : either a "Options" "options" = either b "Options" "options") :
    stream.DrawnFrom a ↔ stream.DrawnFrom b := by
  simp only [readSchema_eq_ok_iff] at hschema
  constructor
  · intro h
    exact ⟨hname ▸ h.name, (hschema _).mp h.schema, hoptions ▸ h.options⟩
  · intro h
    exact ⟨hname ▸ h.name, (hschema _).mpr h.schema, hoptions ▸ h.options⟩

theorem Stream.drawnFrom_renamed (h : Renamed names a b) :
    stream.DrawnFrom a ↔ stream.DrawnFrom b := by
  have hd : Distinct names := by decide
  have hschema : either a "StreamFields" "stream_fields" =
      either b "StreamFields" "stream_fields" :=
    h.either_eq hd (p := ("StreamFields", "stream_fields")) (by decide)
  apply drawnFrom_congr .program
  · exact h.either_eq hd (p := ("Name", "name")) (by decide)
  · intro schema
    rw [hschema]
  · exact h.either_eq hd (p := ("Options", "options")) (by decide)

theorem Stream.drawnFrom_field {key : String} (hk : key = "StreamFields" ∨ key = "stream_fields")
    (h : Renamed StreamField.names a b) (before after : List Json) :
    stream.DrawnFrom (front ++ (key, .arr (before ++ .obj a :: after)) :: back) ↔
      stream.DrawnFrom (front ++ (key, .arr (before ++ .obj b :: after)) :: back) := by
  have hv := either_replace front back key
  apply drawnFrom_congr .program
  · rcases hv "Name" "name" _ _ with he | ⟨hm, -, -⟩
    · exact he
    · rcases hk with rfl | rfl <;> exact absurd hm (by decide)
  · intro schema
    rcases hv "StreamFields" "stream_fields" (.arr (before ++ .obj a :: after))
      (.arr (before ++ .obj b :: after)) with he | ⟨-, ha, hb⟩
    · rw [he]
    · rw [ha, hb, Option.getD_some, Option.getD_some]
      simp [readSchema_eq_ok_iff, StreamField.forall₂_renamed h before after]
  · rcases hv "Options" "options" _ _ with he | ⟨hm, -, -⟩
    · exact he
    · rcases hk with rfl | rfl <;> exact absurd hm (by decide)

theorem Stream.read_obj_eq_ok_iff :
    read source (.obj a) = .ok stream ↔ stream.DrawnFrom a := by
  rw [Stream.read_eq_ok_iff]
  constructor
  · rintro ⟨fields, he, h⟩
    cases he
    exact h
  · intro h
    exact ⟨a, rfl, h⟩

theorem Stream.Reworded.drawnFrom_iff (h : Reworded a b) :
    stream.DrawnFrom a ↔ stream.DrawnFrom b := by
  cases h with
  | filled hf =>
    have hread : read .program (.obj a) = .ok stream ↔ read .program (.obj b) = .ok stream := by
      rw [← Reading.unquoted_eq_ok_iff, hf.unquoted_read, Reading.unquoted_eq_ok_iff]
    exact read_obj_eq_ok_iff.symm.trans (hread.trans read_obj_eq_ok_iff)
  | renamed hr => exact drawnFrom_renamed hr
  | field hk hr => exact drawnFrom_field hk hr _ _

theorem Stream.drawnFrom_iff_of_reworded (h : EqvGen Reworded a b) :
    stream.DrawnFrom a ↔ stream.DrawnFrom b := by
  induction h with
  | rel a b hr => exact hr.drawnFrom_iff
  | refl a => exact Iff.rfl
  | symm a b _ ih => exact ih.symm
  | trans a b c _ _ hab hbc => exact hab.trans hbc

theorem Stream.unquoted_read_of_filled (h : EqvGen Filled a b) :
    (read source (.obj a)).unquoted = (read source (.obj b)).unquoted := by
  induction h with
  | rel a b hf => exact hf.unquoted_read
  | refl a => rfl
  | symm a b _ ih => exact ih.symm
  | trans a b c _ _ hab hbc => exact hab.trans hbc

end Descriptions

/-- However a stream is described, it is the same stream or none, and the one that any of these
descriptions holds. Where they differ in nothing but what is left out or given as nothing, they are
also refused for the same reasons. -/
theorem synonyms_read_alike (source : Source) :
    (∀ a b, EqvGen Stream.Filled a b →
      (Stream.read source (.obj a)).unquoted = (Stream.read source (.obj b)).unquoted) ∧
    ∀ a b, EqvGen Stream.Reworded a b → ∀ stream,
      (Stream.read source (.obj a) = .ok stream ↔ Stream.read source (.obj b) = .ok stream) ∧
      (Stream.read source (.obj a) = .ok stream ↔ stream.DrawnFrom b) := by
  constructor
  · intro a b h
    exact Stream.unquoted_read_of_filled h
  · intro a b h stream
    have hread : Stream.read source (.obj a) = .ok stream ↔ stream.DrawnFrom b :=
      Stream.read_obj_eq_ok_iff.trans (Stream.drawnFrom_iff_of_reworded h)
    exact ⟨hread.trans Stream.read_obj_eq_ok_iff.symm, hread⟩

namespace Rephrased

def described (name schema : String) (fields : List Json) : Json.Fields :=
  [(name, .str "rain"), (schema, .arr fields)]

def level (key : String) : Json := .obj [("Name", .str "level"), (key, .str "float")]

def place (key : String) : Json := .obj [(key, .str "place")]

def short : Json.Fields :=
  described "Name" "StreamFields" [level "FieldType", place "Name"]

def full : Json.Fields := short ++ [("Options", .null)]

def other : Json.Fields := described "name" "stream_fields" [level "field_type", place "name"]

theorem reworded : EqvGen Stream.Reworded full other := by
  have hoptions : Stream.Reworded short full :=
    .filled (@Stream.Filled.options short [] .null rfl (.inl rfl))
  have hname : Stream.Reworded short
      (described "name" "StreamFields" [level "FieldType", place "Name"]) :=
    .renamed (.second (show ("Name", "name") ∈ Stream.names by decide) rfl)
  have hschema : Stream.Reworded
      (described "name" "StreamFields" [level "FieldType", place "Name"])
      (described "name" "stream_fields" [level "FieldType", place "Name"]) :=
    .renamed (.second (show ("StreamFields", "stream_fields") ∈ Stream.names by decide) rfl)
  have hfirst : Stream.Reworded
      (described "name" "stream_fields" [level "FieldType", place "Name"])
      (described "name" "stream_fields" [level "field_type", place "Name"]) :=
    @Stream.Reworded.field _ [_] [] [] [_] _ _ (.inr rfl)
      (.second (show ("FieldType", "field_type") ∈ StreamField.names by decide) rfl)
  have hsecond : Stream.Reworded
      (described "name" "stream_fields" [level "field_type", place "Name"]) other :=
    @Stream.Reworded.field _ [_] [] [_] [] _ _ (.inr rfl)
      (.second (show ("Name", "name") ∈ StreamField.names by decide) rfl)
  exact .trans _ _ _ (.symm _ _ (.rel _ _ hoptions)) (.trans _ _ _ (.rel _ _ hname)
    (.trans _ _ _ (.rel _ _ hschema) (.trans _ _ _ (.rel _ _ hfirst) (.rel _ _ hsecond))))

theorem filled : EqvGen Stream.Filled [("StreamFields", .null)] [("Options", .obj [])] :=
  .trans _ [] _ (.symm _ _ (.rel _ _ (@Stream.Filled.schema [] [] .null rfl (.inl rfl))))
    (.rel _ _ (@Stream.Filled.options [] [] (.obj []) rfl (.inr rfl)))

/-- Five changes do nothing to a stream, and two do nothing for an object without a name. -/
theorem rain_whatever_the_words :
    EqvGen Stream.Reworded full other ∧
    Stream.read .caller (.obj full) =
      .ok ⟨"rain", [⟨"level", .str "float"⟩, ⟨"place", .null⟩], []⟩ ∧
    EqvGen Stream.Filled [("StreamFields", .null)] [("Options", .obj [])] ∧
    (Stream.read .caller (.obj [("StreamFields", .null)])).unquoted =
      .error [⟨.missing, [.key "Name"], .null⟩] := by
  obtain ⟨hfilled, hreworded⟩ := synonyms_read_alike .caller
  refine ⟨reworded, (hreworded _ _ reworded _).1.mpr rfl, filled, ?_⟩
  exact (hfilled _ _ filled).trans rfl

end Rephrased

end TenantGateway
