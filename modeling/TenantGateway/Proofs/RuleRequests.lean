import TenantGateway.Proofs.Rules
import TenantGateway.Proofs.Serving

/-! # Rules in requests

A rule in a request is read as any rule is, but its list of actions may not be empty. Nobody looks
at a list that is left out, so a rule may still come to the operation without an action; there it
is refused once the caller is known.
-/
namespace TenantGateway

open Schema

namespace Rule

variable {source : Source} {v : Json} {rule : Rule}

theorem readSomeActions_eq_ok_iff {actions : List Action} :
    readSomeActions source v = .ok actions ↔ readActions source v = .ok actions ∧ actions ≠ [] := by
  unfold readSomeActions
  split
  · next h =>
    rw [h]
    constructor
    · rintro ⟨⟩
    · rintro ⟨⟨⟩, hne⟩
      exact absurd rfl hne
  · next hn =>
    refine ⟨fun h => ⟨h, ?_⟩, And.left⟩
    rintro rfl
    exact hn h

theorem fieldIs_someActions_iff {fields : Json.Fields} {actions : List Action} :
    FieldIs fields "actions" (readSomeActions source) (some []) actions ↔
      FieldIs fields "actions" (readActions source) (some []) actions ∧
        (actions = [] → fields.lookup "actions" = none) := by
  unfold FieldIs
  cases fields.lookup "actions" with
  | none => simp
  | some w => simp [readSomeActions_eq_ok_iff]

theorem readRequest_eq_ok_iff :
    readRequest source v = .ok rule ↔
      read source v = .ok rule ∧ (rule.actions = [] → v.get? "actions" = none) := by
  simp only [readRequest, read, record_eq_ok_iff, readFieldsWith_eq_ok_iff,
    fieldIs_someActions_iff]
  constructor
  · rintro ⟨fields, rfl, hid, hsql, hactions, hleft⟩
    exact ⟨⟨fields, rfl, hid, hsql, hactions⟩, hleft⟩
  · rintro ⟨⟨fields, rfl, hid, hsql, hactions⟩, hleft⟩
    exact ⟨fields, rfl, hid, hsql, hactions, hleft⟩

def noActions : Problem := ⟨.refused "actions must not be empty", [.key "actions"], .arr []⟩

end Rule

namespace Http.Gateway

variable {κ : Type} {settings : Settings} {s : Services κ} {r : Request} {token name : String}
  {v : Json} {rule : Rule} {content : Body.Content}

section Creation

variable (hp : Body.parse r = .ok content) (hv : content.Stands v)
  (hd : destination (routes settings.root) r.method r.path = .operation .createRule name)
  (hb : bearer? r = some token)
include hp hv hd hb

end Creation

namespace Drafts

def target : String := "/api/rules-engine/rules"

def headers : List (String × String) :=
  [("authorization", "Bearer t"), ("content-type", "application/json")]

def creation (body : Text.Bytes) : Request := ⟨"POST", target, headers, body⟩

def services : Services Question :=
  Behaviour.services ⟨fun _ => .ok ⟨"a-b", none⟩, fun _ _ => .error (.value ""),
    fun _ => .error (.value "")⟩

def empty : Json := .obj [("id", .str "r"), ("sql", .str "from x"), ("actions", .arr [])]

def silent : Json := .obj [("id", .str "r"), ("sql", .str "from x")]

end Drafts

end Http.Gateway

end TenantGateway
