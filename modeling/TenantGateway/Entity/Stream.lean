import TenantGateway.Schema.Reading

/-! # Streams

Streams as the rules engine describes them. Each field has the engine's key and a second one.
-/
namespace TenantGateway

open Schema

/-- A field of a stream; its type is whatever the engine says. -/
structure StreamField where
  name : String
  fieldType : Json
  deriving Repr

namespace StreamField

def model : String := "StreamField"

def readFields (fields : Json.Fields) : Reading StreamField :=
  (required ⟨"Name", some "name"⟩ text fields).map StreamField.mk
    |>.ap (optional ⟨"FieldType", some "field_type"⟩ .ok .null fields)

def read (source : Source) : Json → Reading StreamField := record source model readFields

def toJson (f : StreamField) : Json := .obj [("Name", .str f.name), ("FieldType", f.fieldType)]

end StreamField

structure Stream where
  name : String
  fields : List StreamField
  options : Json.Fields
  deriving Repr

namespace Stream

def model : String := "Stream"

def readSchema (source : Source) : Json → Reading (List StreamField)
  | .null => .ok []
  | v => list (StreamField.read source) v

def readOptions : Json → Reading Json.Fields
  | .null => .ok []
  | v => dictionary v

def readFields (source : Source) (fields : Json.Fields) : Reading Stream :=
  (required ⟨"Name", some "name"⟩ text fields).map Stream.mk
    |>.ap (optional ⟨"StreamFields", some "stream_fields"⟩ (readSchema source) [] fields)
    |>.ap (optional ⟨"Options", some "options"⟩ readOptions [] fields)

def read (source : Source) : Json → Reading Stream := record source model (readFields source)

/-- The values in a stream that may be anything. -/
def freeValues (s : Stream) : List Json := s.options.map (·.2) ++ s.fields.map (·.fieldType)

def toJson (s : Stream) : Json :=
  .obj [("Name", .str s.name), ("StreamFields", .arr (s.fields.map StreamField.toJson)),
    ("Options", .obj s.options)]

end Stream

end TenantGateway
