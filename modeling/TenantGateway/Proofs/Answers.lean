import TenantGateway.Facade
import TenantGateway.Proofs.Namespace
import TenantGateway.Proofs.Run

/-! # Laws of answers

What is made of an answer of the engine: a value where it can be read, a refusal where it is not of
the form it should have, and the fault itself where reading it fails in another way.
-/
namespace TenantGateway

/-- A list of names as JSON. Null lists none. -/
inductive Json.Lists : Json → List String → Prop where
  | null : Lists .null []
  | texts (names : List String) : Lists (.arr (names.map .str)) names

namespace Services

open Namespace

variable {α : Type} {model : String} {read : Json → Schema.Reading α} {refusal : Refusal}
  {answer : Response} {v : Json}

theorem decode_of_ok {a : α} (hj : answer.json = .ok v) (hr : read v = .ok a) :
    decode model read refusal answer = .ok a := by
  simp only [decode, hj, hr, Except.mapError_ok]

theorem decode_of_problems {problems : List Schema.Problem} (hj : answer.json = .ok v)
    (hr : read v = .error problems) :
    decode model read refusal answer =
      .error (.refusal refusal (some (.schema model problems))) := by
  simp only [decode, hj, hr, Except.mapError_error]
  rfl

theorem decode_of_fault {f : Fault} (hj : answer.json = .error f) :
    decode model read refusal answer =
      .error (if f.isAboutValue then .refusal refusal (some f) else f) := by
  simp only [decode, hj, Except.mapError_error]

theorem decode_eq_ok_iff {a : α} :
    decode model read refusal answer = .ok a ↔ ∃ v, answer.json = .ok v ∧ read v = .ok a := by
  cases hj : answer.json with
  | error f =>
    rw [decode_of_fault hj]
    constructor
    · rintro ⟨⟩
    · rintro ⟨_, ⟨⟩, _⟩
  | ok v =>
    simp only [Except.ok.injEq, exists_eq_left']
    cases hr : read v with
    | ok b => rw [decode_of_ok hj hr, Except.ok.injEq, Schema.Reading.ok.injEq]
    | error problems =>
      rw [decode_of_problems hj hr]
      exact iff_of_false nofun nofun

/-- An answer that holds no value is refused, or its fault is passed on. -/
theorem decode_fault {f : Fault} (h : decode model read refusal answer = .error f) :
    (∃ cause, f = .refusal refusal (some cause)) ∨
      answer.json = .error f ∧ f.isAboutValue = false := by
  cases hj : answer.json with
  | error g =>
    rw [decode_of_fault hj] at h
    cases hv : g.isAboutValue with
    | true =>
      rw [if_pos hv] at h
      cases h
      exact .inl ⟨g, rfl⟩
    | false =>
      rw [if_neg (by simp [hv])] at h
      cases h
      exact .inr ⟨rfl, hv⟩
  | ok v =>
    cases hr : read v with
    | ok a =>
      rw [decode_of_ok hj hr] at h
      cases h
    | error problems =>
      rw [decode_of_problems hj hr] at h
      cases h
      exact .inl ⟨_, rfl⟩

theorem mapM_texts {text? : Json → Option String} (h : ∀ name, text? (.str name) = some name)
    (names : List String) : (names.map Json.str).mapM text? = some names := by
  induction names with
  | nil => rfl
  | cons name names ih => simp [List.mapM_cons, h, ih]

theorem namesOf_texts (names : List String) : namesOf (.arr (names.map .str)) = .ok names := by
  rw [namesOf, mapM_texts fun _ => rfl]

theorem mapM_eq_some_iff {text? : Json → Option String}
    (h : ∀ v name, text? v = some name ↔ v = .str name) {items : List Json} {names : List String} :
    items.mapM text? = some names ↔ items = names.map .str := by
  constructor
  · intro hm
    induction items generalizing names with
    | nil =>
      cases hm
      rfl
    | cons v items ih =>
      rw [List.mapM_cons] at hm
      obtain ⟨name, hname, hm⟩ := Option.bind_eq_some_iff.mp hm
      obtain ⟨rest, hrest, he⟩ := Option.bind_eq_some_iff.mp hm
      cases he
      rw [(h v name).mp hname, ih hrest, List.map_cons]
  · rintro rfl
    exact mapM_texts (fun name => (h _ name).mpr rfl) names

theorem namesOf_eq_ok_iff {names : List String} : namesOf v = .ok names ↔ v.Lists names := by
  constructor
  · intro h
    unfold namesOf at h
    split at h
    · cases h
      exact .null
    · next items =>
      split at h
      · next found hm =>
        cases h
        rw [mapM_eq_some_iff (fun w name => by cases w <;> simp)] at hm
        rw [hm]
        exact .texts names
      · cases h
    · cases h
  · rintro (_ | _)
    · rfl
    · exact namesOf_texts names

theorem namesOf_fault {f : Fault} (h : namesOf v = .error f) : f = .refusal .streamNames none := by
  unfold namesOf at h
  split at h
  · cases h
  · split at h <;> cases h
    rfl
  · cases h
    rfl

theorem streamNames_eq_bind (user : String) :
    streamNames user answer = decode "" .ok .streamList answer >>= fun v =>
      (namesOf v).map (unqualifyAll user) := by
  rw [streamNames]
  cases decode "" .ok .streamList answer <;> rfl

theorem streamNames_of_texts (user : String) {names : List String}
    (hj : answer.json = .ok (.arr (names.map .str))) :
    streamNames user answer = .ok (unqualifyAll user names) := by
  rw [streamNames, decode_of_ok hj rfl]
  simp only [namesOf_texts]
  rfl

theorem streamOf_of_read (user : String) {stream : Stream} (hs : answer.status ≠ 404)
    (hj : answer.json = .ok v) (hr : Stream.read .program v = .ok stream) :
    streamOf user answer = .ok { stream with name := unqualify user stream.name } := by
  rw [streamOf, if_neg hs, decode_of_ok hj hr]
  rfl

end Services

end TenantGateway
