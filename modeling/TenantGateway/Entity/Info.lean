import TenantGateway.Schema.Reading

/-! # The engine about itself

What the rules engine says of itself.
-/
namespace TenantGateway

open Schema

structure Info where
  version : String
  os : String
  upTimeSeconds : Int
  deriving DecidableEq, Repr

namespace Info

def model : String := "Info"

def readFields (fields : Json.Fields) : Reading Info :=
  (required ⟨"version", none⟩ text fields).map Info.mk
    |>.ap (optional ⟨"os", none⟩ text "" fields)
    |>.ap (optional ⟨"upTimeSeconds", none⟩ whole 0 fields)

def read (source : Source) : Json → Reading Info := record source model readFields

def toJson (i : Info) : Json :=
  .obj [("version", .str i.version), ("os", .str i.os), ("upTimeSeconds", .int i.upTimeSeconds)]

end Info

end TenantGateway
