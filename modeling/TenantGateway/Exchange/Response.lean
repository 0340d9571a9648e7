import TenantGateway.Fault
import TenantGateway.Text.Blank
import TenantGateway.Text.Charset
import TenantGateway.Text.Quoted

/-! # Answers of other services

Answers of other services: a status, and a body that is read as text or as JSON. Reading it may
fail when the connection does. No answer has a content type with a `charset` that nothing is said
of: of such a header the exchange itself fails, before there is an answer.
-/
namespace TenantGateway

open Text

structure Response where
  status : Int
  contentType : String
  body : Except Fault Bytes

namespace Response

def isQuote (c : Char) : Bool := c == '"' || c == apostrophe

def isWrapping (c : Char) : Bool := c == ' ' || isQuote c

/-- The parameters of a content type, the last one first. What has no equals sign is none. -/
def parameters (contentType : String) : List (String × String) :=
  (((contentType.splitOn ";").drop 1).filterMap fun p =>
    let cs := strip isBlank p.toList
    match cs.dropWhile (· != '=') with
    | [] => none
    | _ :: value =>
      some ((String.ofList (strip isWrapping (cs.takeWhile (· != '=')))).toLower,
        String.ofList (strip isWrapping value))).reverse

def mentions (part whole : String) : Bool := (whole.splitOn part).length > 1

/-- The name of the charset of a body: the one its content type names, or else Latin-1 for kinds of
text and UTF-8 for JSON. -/
def charset? (contentType : String) : Option String :=
  let kind := String.ofList (strip isBlank (contentType.toList.takeWhile (· != ';')))
  match (parameters contentType).lookup "charset" with
  | some name => some (String.ofList (strip isQuote name.toList))
  | none =>
    if mentions "text" kind then some "iso-8859-1"
    else if mentions "application/json" kind then some "utf-8"
    else none

def ofCharsetFault : CharsetFault → Fault
  | .undecodable u => .undecodable u.text
  | .refused name reason => .charset name reason
  | .badName => .value CharsetFault.badName.text

def text (r : Response) : Except Fault String :=
  r.body.bind fun bs =>
    (Charset.decodeNamed (charset? r.contentType) bs).mapError ofCharsetFault

/-- A body without a charset that is plainly JSON in some encoding, as the text it is there. -/
def plainJson? (contentType : String) (body : Bytes) : Option String :=
  if ((charset? contentType).getD "") = "" ∧ body.length > 3 then
    (Encoding.ofJsonSample? body).bind fun (e, skip) =>
      match e.decode? false skip body with
      | .ok cs => some (String.ofList cs)
      | .error _ => none
  else none

def json (r : Response) : Except Fault Json :=
  match r.body with
  | .error f => .error f
  | .ok bs =>
    let content : Except Fault String :=
      match plainJson? r.contentType bs with
      | some s => .ok s
      | none => r.text
    content.bind fun s => (Json.parse s).mapError .ofParse

end Response

end TenantGateway
