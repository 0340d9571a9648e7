import TenantGateway.Fault
import TenantGateway.Http.Message
import TenantGateway.Json.Parser
import TenantGateway.Schema.Reading

/-! # Bodies of requests

Bodies of requests: taking them apart, reading what they ask for, and saying what is wrong with
them.
-/
namespace TenantGateway.Http.Body

open Text Schema

/-- Whether a content type announces JSON: `application/json`, or another application's format that
is based on JSON. -/
def announcesJson (contentType : String) : Bool :=
  let kind := (String.ofList (strip isBlank (contentType.toList.takeWhile (· != ';')))).toLower
  match kind.splitOn "/" with
  | ["application", subtype] => subtype == "json" || "+json".toList.isSuffixOf subtype.toList
  | _ => false

inductive Content where
  | absent
  | json (v : Json)
  | raw (bytes : Bytes)

/-- What ends the reading of a body before it is looked at. -/
inductive Unparsed where
  | grammar (f : Json.SyntaxFault)
  | unreadable

def parse (r : Request) : Except Unparsed Content :=
  if r.body = [] then .ok .absent
  else if ((r.header? "content-type").map announcesJson).getD false then
    match Json.parseBytes r.body with
    | .ok .null => .ok .absent
    | .ok v => .ok (.json v)
    | .error (.text (.grammar f)) => .error (.grammar f)
    | .error _ => .error .unreadable
  else .ok (.raw r.body)

def stepJson : Step → Json
  | .key name => .str name
  | .index i => .int i

def problemJson (p : Problem) : Json :=
  .obj ([("type", .str p.complaint.code),
    ("loc", .arr ((Step.key "body" :: p.location).map stepJson)),
    ("msg", .str p.complaint.message), ("input", p.input)] ++
    match p.complaint.context? with
    | some context => [("ctx", context)]
    | none => [])

def refuse (problems : List Json) : Answer :=
  .ofJson 422 (.obj [("detail", .arr problems)])

def unparsedAnswer : Unparsed → Answer
  | .unreadable => .detail 400 "There was an error parsing the body"
  | .grammar f =>
    refuse [.obj [("type", .str "json_invalid"),
      ("loc", .arr [.str "body", .int f.offset]), ("msg", .str "JSON decode error"),
      ("input", .obj []), ("ctx", .obj [("error", .str f.cause.text)])]]

def rawText (bytes : Bytes) : Except Fault String :=
  match Encoding.utf8.decode? false 0 bytes with
  | .ok cs => .ok (String.ofList cs)
  | .error u => .error (.undecodable u.text)

/-- The answer that reports problems. A number that is not finite cannot be reported. -/
def problemsAnswer (problems : List Problem) : Except Fault Answer :=
  if problems.all fun p => p.input.allFinite then .ok (refuse (problems.map problemJson))
  else .error (.value "Out of range float values are not JSON compliant")

def read {α : Type} (reader : Json → Reading α) (content : Content) :
    Except Fault (Except Answer α) :=
  let judge (v : Json) : Except Fault (Except Answer α) :=
    match reader v with
    | .ok a => .ok (.ok a)
    | .error ps => (problemsAnswer ps).map .error
  match content with
  | .absent => (problemsAnswer [⟨.missing, [], .null⟩]).map .error
  | .json v => judge v
  | .raw bytes =>
    match rawText bytes with
    | .ok s => judge (.str s)
    | .error f => .error f

end TenantGateway.Http.Body
