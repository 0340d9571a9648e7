import TenantGateway.Fault

/-! # Runs

A run: what was asked of other services, in order, and how it ended. A step after a failure is not
taken, so nothing is asked after one.
-/
namespace TenantGateway

structure Run (κ α : Type) where
  calls : List κ
  outcome : Except Fault α

namespace Run

variable {κ α β : Type}

def pure (a : α) : Run κ α := ⟨[], .ok a⟩

def fail (f : Fault) : Run κ α := ⟨[], .error f⟩

def bind (r : Run κ α) (next : α → Run κ β) : Run κ β :=
  match r.outcome with
  | .error f => ⟨r.calls, .error f⟩
  | .ok a => ⟨r.calls ++ (next a).calls, (next a).outcome⟩

instance : Monad (Run κ) where
  pure := Run.pure
  bind := Run.bind

def ask (call : κ) (answer : Except Fault α) : Run κ α := ⟨[call], answer⟩

def ofOutcome (outcome : Except Fault α) : Run κ α := ⟨[], outcome⟩

/-- A run whose failure is reported as another one. -/
def mapFault (translate : Fault → Fault) (r : Run κ α) : Run κ α :=
  ⟨r.calls, r.outcome.mapError translate⟩

@[simp] theorem calls_pure (a : α) : (Pure.pure a : Run κ α).calls = [] := rfl

@[simp] theorem outcome_pure (a : α) : (Pure.pure a : Run κ α).outcome = .ok a := rfl

theorem bind_of_error {r : Run κ α} {f : Fault} (h : r.outcome = .error f) (next : α → Run κ β) :
    r >>= next = ⟨r.calls, .error f⟩ := by
  show r.bind next = _
  simp [Run.bind, h]

theorem bind_of_ok {r : Run κ α} {a : α} (h : r.outcome = .ok a) (next : α → Run κ β) :
    r >>= next = ⟨r.calls ++ (next a).calls, (next a).outcome⟩ := by
  show r.bind next = _
  simp [Run.bind, h]

end Run

end TenantGateway
