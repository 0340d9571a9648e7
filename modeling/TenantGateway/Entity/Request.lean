import TenantGateway.Schema.Reading

/-! # Requests and results

What callers ask for in the body of a request, and what they are answered.
-/
namespace TenantGateway

open Schema

structure StreamRequest where
  name : String
  topic : String
  row : String
  deriving DecidableEq, Repr

namespace StreamRequest

def model : String := "StreamRequest"

def readFields (fields : Json.Fields) : Reading StreamRequest :=
  (required ⟨"name", none⟩ nonemptyText fields).map StreamRequest.mk
    |>.ap (required ⟨"topic", none⟩ nonemptyText fields)
    |>.ap (required ⟨"row", none⟩ nonemptyText fields)

def read (source : Source) : Json → Reading StreamRequest := record source model readFields

def toJson (r : StreamRequest) : Json :=
  .obj [("name", .str r.name), ("topic", .str r.topic), ("row", .str r.row)]

end StreamRequest

structure StreamUpdate where
  topic : String
  row : String
  deriving DecidableEq, Repr

namespace StreamUpdate

def model : String := "StreamUpdateRequest"

def readFields (fields : Json.Fields) : Reading StreamUpdate :=
  (required ⟨"topic", none⟩ nonemptyText fields).map StreamUpdate.mk
    |>.ap (required ⟨"row", none⟩ nonemptyText fields)

def read (source : Source) : Json → Reading StreamUpdate := record source model readFields

def toJson (r : StreamUpdate) : Json := .obj [("topic", .str r.topic), ("row", .str r.row)]

end StreamUpdate

structure ResultAnswer where
  result : String
  deriving DecidableEq, Repr

namespace ResultAnswer

def model : String := "ResultResponse"

def read (source : Source) : Json → Reading ResultAnswer :=
  record source model fun fields =>
    (required ⟨"result", none⟩ text fields).map ResultAnswer.mk

def toJson (a : ResultAnswer) : Json := .obj [("result", .str a.result)]

end ResultAnswer

structure StreamsAnswer where
  streams : List String
  deriving DecidableEq, Repr

namespace StreamsAnswer

def model : String := "StreamListResponse"

def read (source : Source) : Json → Reading StreamsAnswer :=
  record source model fun fields =>
    (required ⟨"streams", none⟩ (list text) fields).map StreamsAnswer.mk

def toJson (a : StreamsAnswer) : Json := .obj [("streams", .arr (a.streams.map .str))]

end StreamsAnswer

end TenantGateway
