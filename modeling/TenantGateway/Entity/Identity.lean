import TenantGateway.Schema.Reading

/-! # Identities

Who a caller is.
-/
namespace TenantGateway

open Schema

structure Identity where
  id : String
  email : Option String
  deriving DecidableEq, Repr

namespace Identity

def model : String := "Identity"

def readFields (fields : Json.Fields) : Reading Identity :=
  (required ⟨"id", none⟩ text fields).map Identity.mk
    |>.ap (optional ⟨"email", none⟩ textOrNull none fields)

def read (source : Source) : Json → Reading Identity := record source model readFields

def toJson (i : Identity) : Json :=
  .obj [("id", .str i.id),
    ("email", match i.email with | some e => .str e | none => .null)]

end Identity

end TenantGateway
