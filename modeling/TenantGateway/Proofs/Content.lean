import TenantGateway.Proofs.Admission

/-! # Content of answers

What becomes of the JSON in an answer that has a body. It is a value where it is of the form that it
should have, and a refusal where it is not. Content that nests too deep is neither.
-/
namespace TenantGateway

open Text

variable {α β : Type}

namespace Response

variable {r : Response} {bs : Bytes} {f : Fault}

/-- Containers stand in one another too deep to be read. -/
def TooDeep (r : Response) : Prop := ∃ c, r.json = .error (.tooDeep c)

theorem eq_tooDeep_of_json (hb : r.body = .ok bs) (hj : r.json = .error f)
    (hv : f.isAboutValue = false) : ∃ c, f = .tooDeep c := by
  cases (jsonLost_iff (Channels.failsOnly_of_body hb)).mpr ⟨hj, hv⟩ with
  | broken h => cases hb.symm.trans h
  | deep => exact ⟨_, rfl⟩

end Response

/-- An outcome made of an answer's content: a value that the content holds, or else a refusal of one
family. Of content that nests too deep it is the fault of reading it. -/
structure Yields (r : Response) (family : ErrorFamily) (holds : α → Prop)
    (outcome : Except Fault α) : Prop where
  value : ∀ a, outcome = .ok a ↔ holds a
  refused : (∃ reason cause, outcome = .error (.refusal reason cause) ∧ reason.family = family) ↔
    (¬ ∃ a, holds a) ∧ ¬ r.TooDeep
  too_deep : ∀ c, outcome = .error (.tooDeep c) ↔ r.json = .error (.tooDeep c)

section Yields

variable {r : Response} {bs : Bytes} {family : ErrorFamily} {holds : α → Prop}
  {outcome : Except Fault α}

theorem Yields.of_fault (hvalue : ∀ a, outcome = .ok a ↔ holds a)
    (hdeep : ∀ c, r.json = .error (.tooDeep c) → outcome = .error (.tooDeep c))
    (hfault : ∀ f, outcome = .error f →
      (∃ reason cause, f = .refusal reason cause ∧ reason.family = family) ∨
        ∃ c, f = .tooDeep c ∧ r.json = .error (.tooDeep c)) :
    Yields r family holds outcome := by
  refine ⟨hvalue, ⟨?_, ?_⟩, fun c => ⟨?_, hdeep c⟩⟩
  · rintro ⟨reason, cause, ho, -⟩
    constructor
    · rintro ⟨a, ha⟩
      cases ho.symm.trans ((hvalue a).mpr ha)
    · rintro ⟨c, hc⟩
      cases ho.symm.trans (hdeep c hc)
  · rintro ⟨hnone, hd⟩
    cases ho : outcome with
    | ok a => exact absurd ⟨a, (hvalue a).mp ho⟩ hnone
    | error f =>
      rcases hfault f ho with ⟨reason, cause, rfl, hr⟩ | ⟨c, -, hc⟩
      · exact ⟨reason, cause, rfl, hr⟩
      · exact absurd ⟨c, hc⟩ hd
  · intro ho
    rcases hfault _ ho with ⟨_, _, ⟨⟩, -⟩ | ⟨_, ⟨⟩, hc⟩
    exact hc

theorem Yields.fault (h : Yields r family holds outcome) {f : Fault} (hf : outcome = .error f) :
    (∃ reason cause, f = .refusal reason cause ∧ reason.family = family) ∨
      ∃ c, f = .tooDeep c ∧ r.json = .error (.tooDeep c) := by
  by_cases hd : r.TooDeep
  · obtain ⟨c, hc⟩ := hd
    cases hf.symm.trans ((h.too_deep c).mpr hc)
    exact .inr ⟨c, rfl, hc⟩
  · have hnone : ¬ ∃ a, holds a := by
      rintro ⟨a, ha⟩
      cases hf.symm.trans ((h.value a).mpr ha)
    obtain ⟨reason, cause, ho, hr⟩ := h.refused.mpr ⟨hnone, hd⟩
    cases hf.symm.trans ho
    exact .inl ⟨reason, cause, rfl, hr⟩

theorem Yields.congr (h : Yields r family holds outcome) {other : α → Prop}
    (hs : ∀ a, holds a ↔ other a) : Yields r family other outcome := by
  obtain rfl : holds = other := funext fun a => propext (hs a)
  exact h

theorem Yields.map (h : Yields r family holds outcome) (g : α → β) :
    Yields r family (fun b => ∃ a, holds a ∧ b = g a) (outcome.map g) := by
  refine .of_fault (fun b => ?_) (fun c hc => ?_) fun f hf => ?_
  · simp only [← h.value]
    cases outcome <;> simp [Except.map, eq_comm]
  · exact Except.map_eq_error_iff.mpr ((h.too_deep c).mpr hc)
  · exact h.fault (Except.map_eq_error_iff.mp hf)

/-- What is read of a body is a value, or refused unless it nests too deep. -/
theorem decode_yields {model : String} {read : Json → Schema.Reading α} {refusal : Refusal}
    (hb : r.body = .ok bs) (hfamily : refusal.family = family) :
    Yields r family (fun a => ∃ v, r.json = .ok v ∧ read v = .ok a)
      (Services.decode model read refusal r) := by
  refine .of_fault (fun a => Services.decode_eq_ok_iff) (fun c hc => ?_) fun f hf => ?_
  · exact Services.decode_of_fault hc
  · rcases Services.decode_fault hf with ⟨cause, rfl⟩ | ⟨hj, hv⟩
    · exact .inl ⟨refusal, some cause, rfl, hfamily⟩
    · obtain ⟨c, rfl⟩ := Response.eq_tooDeep_of_json hb hj hv
      exact .inr ⟨c, rfl, hj⟩

theorem decode_object_yields {model : String} {read : Json → Schema.Reading α} {refusal : Refusal}
    {drawn : Json.Fields → α → Prop} (hb : r.body = .ok bs) (hfamily : refusal.family = family)
    (hread : ∀ v a, read v = .ok a ↔ ∃ fields, v = .obj fields ∧ drawn fields a) :
    Yields r family (fun a => ∃ fields, r.json = .ok (.obj fields) ∧ drawn fields a)
      (Services.decode model read refusal r) := by
  refine (decode_yields hb hfamily).congr fun a => ?_
  simp only [hread]
  constructor
  · rintro ⟨_, hj, fields, rfl, hd⟩
    exact ⟨fields, hj, hd⟩
  · rintro ⟨fields, hj, hd⟩
    exact ⟨_, hj, fields, rfl, hd⟩

end Yields

theorem Services.outcome_of_answered {κ : Type} {s : Services κ} {settings : Settings}
    {token : String} {task : Task} {user : Identity} {request : EngineRequest} {answer : Response}
    (hu : (s.identify token).outcome = .ok user)
    (hr : .engine request ∈ s.questions settings token task)
    (ha : (s.engine request).outcome = .ok answer) :
    (s.perform settings token task).outcome = (task.plan settings user.id).conclude answer := by
  rw [outcome_of_answer hu hr, ha]
  rfl

def Services.answering (answer : Response) : Services Question :=
  Behaviour.services ⟨fun _ => .ok ⟨"a-b", none⟩, fun _ _ => .ok .null, fun _ => .ok answer⟩

def Bottomless.services : Services Question := .answering Unadmitted.bottomless

end TenantGateway
