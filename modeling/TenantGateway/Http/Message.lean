import TenantGateway.Json.Value
import TenantGateway.Text.Blank
import TenantGateway.Text.Percent

/-! # Requests and answers

Requests to the gateway and its answers. Their texts are sequences of Unicode scalar values; what is
in a body is bytes.
-/
namespace TenantGateway.Http

open Text

/-- A request; its target is the path as it is sent, with the query if there is one. -/
structure Request where
  method : String
  target : String
  headers : List (String × String)
  body : Bytes

def Request.path (r : Request) : String :=
  Percent.decode (String.ofList (r.target.toList.takeWhile (· != '?')))

def Request.query (r : Request) : String :=
  String.ofList ((r.target.toList.dropWhile (· != '?')).drop 1)

def Request.header? (r : Request) (name : String) : Option String :=
  (r.headers.find? fun (n, _) => n.toLower == name).map (·.2)

inductive Content where
  | json (v : Json)
  | text (s : String)
  deriving Repr

structure Answer where
  status : Nat
  headers : List (String × String)
  content : Content
  deriving Repr

namespace Answer

def ofJson (status : Nat) (v : Json) : Answer :=
  ⟨status, [("content-type", "application/json")], .json v⟩

def plain (status : Nat) (s : String) : Answer :=
  ⟨status, [("content-type", "text/plain; charset=utf-8")], .text s⟩

def withHeaders (a : Answer) (headers : List (String × String)) : Answer :=
  { a with headers := a.headers ++ headers }

def detail (status : Nat) (text : String) : Answer := ofJson status (.obj [("detail", .str text)])

def unauthorized (text : String) : Answer :=
  (detail 401 text).withHeaders [("www-authenticate", "Bearer")]

end Answer

/-- The token of a bearer, whose scheme is written in any case and divided from it by a space. -/
def bearer? (r : Request) : Option String :=
  (r.header? "authorization").bind fun value =>
    let scheme := String.ofList (value.toList.takeWhile (· != ' '))
    let token := String.ofList (strip isBlank ((value.toList.dropWhile (· != ' ')).drop 1))
    if scheme.toLower = "bearer" ∧ token ≠ "" then some token else none

end TenantGateway.Http
