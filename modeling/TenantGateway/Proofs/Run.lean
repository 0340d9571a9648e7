import TenantGateway.Exchange.Run

/-! # Laws of runs

Runs form a lawful monad. What is asked in a sequence of steps is what each step asks, as far as the
steps before it succeed.
-/
namespace TenantGateway

theorem Except.bind_eq_ok_iff {ε α β : Type} {x : Except ε α} {next : α → Except ε β} {b : β} :
    x >>= next = .ok b ↔ ∃ a, x = .ok a ∧ next a = .ok b := by
  cases x with
  | error e =>
    constructor
    · intro h
      cases h
    · rintro ⟨_, h, _⟩
      cases h
  | ok a =>
    constructor
    · intro h
      exact ⟨a, rfl, h⟩
    · rintro ⟨_, h, hb⟩
      cases h
      exact hb

theorem Except.check_bind_eq_ok_iff {ε β : Type} {x : Except ε Unit} {next : Unit → Except ε β}
    {b : β} : x >>= next = .ok b ↔ x = .ok () ∧ next () = .ok b := by
  rw [Except.bind_eq_ok_iff]
  constructor
  · rintro ⟨⟨⟩, hx, hb⟩
    exact ⟨hx, hb⟩
  · rintro ⟨hx, hb⟩
    exact ⟨(), hx, hb⟩

@[simp] theorem Except.mapError_ok {ε ε' α : Type} (translate : ε → ε') (a : α) :
    (Except.ok a).mapError translate = .ok a := rfl

@[simp] theorem Except.mapError_error {ε ε' α : Type} (translate : ε → ε') (e : ε) :
    (Except.error e : Except ε α).mapError translate = .error (translate e) := rfl

theorem Except.mapError_eq_ok_iff {ε ε' α : Type} {x : Except ε α} {translate : ε → ε'} {a : α} :
    x.mapError translate = .ok a ↔ x = .ok a := by
  cases x <;> simp

theorem Except.bind_eq_error_iff {ε α β : Type} {x : Except ε α} {next : α → Except ε β} {e : ε} :
    x >>= next = .error e ↔ x = .error e ∨ ∃ a, x = .ok a ∧ next a = .error e := by
  cases x with
  | error d =>
    show Except.error d = _ ↔ _
    simp
  | ok a =>
    show next a = _ ↔ _
    simp

theorem Except.map_eq_ok_iff {ε α β : Type} {x : Except ε α} {f : α → β} {b : β} :
    x.map f = .ok b ↔ ∃ a, x = .ok a ∧ f a = b := by
  cases x <;> simp [Except.map]

theorem Except.map_eq_error_iff {ε α β : Type} {x : Except ε α} {f : α → β} {e : ε} :
    x.map f = .error e ↔ x = .error e := by
  cases x <;> simp [Except.map]

theorem Except.mapError_eq_error_iff {ε ε' α : Type} {x : Except ε α} {translate : ε → ε'}
    {e : ε'} : x.mapError translate = .error e ↔ ∃ d, x = .error d ∧ translate d = e := by
  cases x <;> simp

namespace Run

variable {κ α β γ : Type}

@[ext] theorem ext {r s : Run κ α} (hc : r.calls = s.calls) (ho : r.outcome = s.outcome) :
    r = s := by
  cases r
  cases s
  cases hc
  cases ho
  rfl

theorem calls_bind (r : Run κ α) (next : α → Run κ β) :
    (r >>= next).calls =
      r.calls ++ (match r.outcome with | .ok a => (next a).calls | .error _ => []) := by
  cases h : r.outcome with
  | error f => simp [bind_of_error h]
  | ok a => simp [bind_of_ok h]

theorem outcome_bind (r : Run κ α) (next : α → Run κ β) :
    (r >>= next).outcome = r.outcome >>= fun a => (next a).outcome := by
  cases h : r.outcome with
  | error f =>
    rw [bind_of_error h]
    rfl
  | ok a =>
    rw [bind_of_ok h]
    rfl

theorem pure_bind (a : α) (next : α → Run κ β) : (Pure.pure a : Run κ α) >>= next = next a := by
  rw [bind_of_ok (outcome_pure a)]
  rfl

theorem bind_assoc (r : Run κ α) (next : α → Run κ β) (last : β → Run κ γ) :
    r >>= next >>= last = r >>= fun a => next a >>= last := by
  cases h : r.outcome with
  | error f => rw [bind_of_error h, bind_of_error h, bind_of_error rfl]
  | ok a =>
    rw [bind_of_ok h, bind_of_ok h]
    cases hn : (next a).outcome with
    | error f => rw [bind_of_error rfl, bind_of_error hn]
    | ok b => rw [bind_of_ok rfl, bind_of_ok hn, List.append_assoc]

theorem id_map (r : Run κ α) : id <$> r = r := by
  show r >>= _ = r
  cases h : r.outcome with
  | error f => rw [bind_of_error h, ← h]
  | ok a =>
    rw [bind_of_ok h]
    exact Run.ext (List.append_nil _) h.symm

instance : LawfulMonad (Run κ) := .mk' _ id_map pure_bind bind_assoc

@[simp] theorem calls_map (f : α → β) (r : Run κ α) : (f <$> r).calls = r.calls := by
  rw [← bind_pure_comp, calls_bind]
  cases r.outcome <;> simp

@[simp] theorem calls_ask (call : κ) (answer : Except Fault α) : (ask call answer).calls = [call] :=
  rfl

@[simp] theorem outcome_ask (call : κ) (answer : Except Fault α) :
    (ask call answer).outcome = answer := rfl

@[simp] theorem calls_ofOutcome (outcome : Except Fault α) :
    (ofOutcome outcome : Run κ α).calls = [] := rfl

@[simp] theorem outcome_ofOutcome (outcome : Except Fault α) :
    (ofOutcome outcome : Run κ α).outcome = outcome := rfl

theorem calls_bind_ofOutcome (r : Run κ α) (conclude : α → Except Fault β) :
    (r >>= fun a => ofOutcome (conclude a)).calls = r.calls := by
  rw [calls_bind]
  cases r.outcome <;> simp

@[simp] theorem calls_mapFault (translate : Fault → Fault) (r : Run κ α) :
    (r.mapFault translate).calls = r.calls := rfl

@[simp] theorem outcome_mapFault (translate : Fault → Fault) (r : Run κ α) :
    (r.mapFault translate).outcome = r.outcome.mapError translate := rfl

@[simp] theorem map_ofOutcome (f : α → β) (outcome : Except Fault α) :
    f <$> (ofOutcome outcome : Run κ α) = ofOutcome (outcome.map f) := by
  cases outcome <;> rfl

theorem ofOutcome_ok (a : α) : (ofOutcome (.ok a) : Run κ α) = Pure.pure a := rfl

end Run

end TenantGateway
