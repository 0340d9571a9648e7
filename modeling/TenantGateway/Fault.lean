import TenantGateway.Json.Display
import TenantGateway.Schema.Problem
import TenantGateway.Text.Charset
import TenantGateway.Token.Problem

/-! # Faults

Everything that can end an operation without a value: failures of the services that the gateway
asks, and the gateway's own refusals, each with the failure it follows from.
-/
namespace TenantGateway

inductive TransportFailure where
  | connection
  | timeout
  | connectTimeout
  | readTimeout
  | secureChannel
  | relay
  | redirects
  | badUrl
  | noScheme
  | badHeader
  | chunking
  | compression
  | other
  deriving DecidableEq, Repr

/-- The request could not even be written; such a failure is about a value too. -/
def TransportFailure.isAboutValue : TransportFailure → Bool
  | .badUrl | .noScheme | .badHeader => true
  | _ => false

/-- The families of the gateway's own errors. Each but the first specialises another. -/
inductive ErrorFamily where
  | gateway
  | malformed
  | unauthorized
  | engine
  | notFound
  deriving DecidableEq, Repr

namespace ErrorFamily

def parent? : ErrorFamily → Option ErrorFamily
  | .gateway => none
  | .malformed | .unauthorized | .engine => some .gateway
  | .notFound => some .engine

def lineage : ErrorFamily → List ErrorFamily
  | .notFound => [.notFound, .engine, .gateway]
  | .gateway => [.gateway]
  | f => [f, .gateway]

def defaultText : ErrorFamily → String
  | .gateway => "rules engine error"
  | .malformed => "malformed entity specification"
  | .unauthorized => "missing or invalid credentials provided"
  | .engine => "kuiper internal server error"
  | .notFound => "non-existent entity"

def status : ErrorFamily → Nat
  | .notFound => 404
  | .malformed => 400
  | .unauthorized => 401
  | .engine | .gateway => 500

/-- The text of an error that is given a value to say: the default stands in for none and for an
empty one. -/
def textOf (f : ErrorFamily) : Option Json → String
  | none => f.defaultText
  | some v => if v.isTruthy then v.display else f.defaultText

end ErrorFamily

inductive Refusal where
  | unauthorized
  | notFound
  | noSourceClause
  | noSource
  | noActions
  | streamNames
  | streamList
  | streamPayload
  | unreachable
  | unreadable
  | infoPayload
  deriving DecidableEq, Repr

namespace Refusal

def family : Refusal → ErrorFamily
  | .unauthorized => .unauthorized
  | .notFound => .notFound
  | .noSourceClause | .noSource | .noActions | .streamNames | .streamList | .streamPayload =>
    .malformed
  | .unreachable | .unreadable | .infoPayload => .engine

/-- The wording of a refusal; some end with the text of the failure they follow from. -/
def text (cause : String) : Refusal → String
  | .unauthorized => ErrorFamily.unauthorized.defaultText
  | .notFound => ErrorFamily.notFound.defaultText
  | .noSourceClause => "rule query is missing a 'from' clause"
  | .noSource => "rule query is missing the source after 'from'"
  | .noActions => "rule must have at least one action"
  | .streamNames => "stream list must be a list of names"
  | .streamList => "invalid stream list: " ++ cause
  | .streamPayload => "invalid stream payload: " ++ cause
  | .unreachable => "kuiper internal server error: " ++ cause
  | .unreadable => "failed to read kuiper response: " ++ cause
  | .infoPayload => "invalid kuiper info payload: " ++ cause

end Refusal

inductive TokenRefusal where
  | empty
  | noKey
  | undecodable
  | expired
  | badSignature
  | invalid
  | issuer
  | noSubject
  | reported (text : String)
  deriving DecidableEq, Repr

def TokenRefusal.text (cause : String) : TokenRefusal → String
  | .empty => "Token is empty"
  | .noKey => "Failed to get signing key: " ++ cause
  | .undecodable => "Token decode failed"
  | .expired => "Token has expired"
  | .badSignature => "Invalid token signature"
  | .invalid => "Invalid token: " ++ cause
  | .issuer => "Invalid token issuer"
  | .noSubject => "Token has no subject"
  | .reported text => text

inductive ChannelRefusal where
  | emptyId
  | unreachable
  | status (id : String) (code : Int)
  | payload (id : String)
  | reported (text : String)
  deriving DecidableEq, Repr

def ChannelRefusal.text (cause : String) : ChannelRefusal → String
  | .emptyId => "Channel id is empty"
  | .unreachable => "Things service unreachable: " ++ cause
  | .status id code => "Channel " ++ id ++ " lookup failed with status " ++ toString code
  | .payload id => "Invalid channel payload for " ++ id
  | .reported text => text

inductive Fault where
  | transport (failure : TransportFailure) (text : String)
  | system (text : String)
  | value (text : String)
  | internal (text : String)
  | undecodable (text : String)
  | charset (name reason : String)
  | notJson (f : Json.SyntaxFault)
  | tooDeep (c : Json.Container)
  | schema (model : String) (problems : List Schema.Problem)
  | signing (p : Token.Problem)
  | unhashable (kind : String)
  | tooTall
  | environment (field : String)
  | assertion (text : String)
  | token (reason : TokenRefusal) (cause : Option Fault)
  | channel (reason : ChannelRefusal) (cause : Option Fault)
  | refusal (reason : Refusal) (cause : Option Fault)

namespace Fault

def ofParse : Json.ParseFault → Fault
  | .grammar f => .notJson f
  | .depth c => .tooDeep c
  | .digits count => .value (Numeral.tooLong count)

def message : Fault → String
  | .transport _ text | .system text | .value text | .internal text | .undecodable text
  | .assertion text => text
  | .charset name reason => (Text.CharsetFault.refused name reason).text
  | .notJson f => f.text
  | .tooDeep c => c.tooDeep
  | .schema model problems => Schema.headline model problems
  | .signing p => p.text
  | .tooTall => "Error serializing to JSON: ValueError: Maximum serialization depth exceeded"
  | .unhashable kind => "unhashable type: '" ++ kind ++ "'"
  | .environment field =>
    "error parsing value for field \"" ++ field ++ "\" from source \"EnvSettingsSource\""
  | .token reason none => reason.text ""
  | .token reason (some cause) => reason.text cause.message
  | .channel reason none => reason.text ""
  | .channel reason (some cause) => reason.text cause.message
  | .refusal reason none => reason.text ""
  | .refusal reason (some cause) => reason.text cause.message

def cause? : Fault → Option Fault
  | .token _ cause | .channel _ cause | .refusal _ cause => cause
  | _ => none

def isTransport : Fault → Bool
  | .transport _ _ => true
  | _ => false

def isAboutValue : Fault → Bool
  | .value _ | .undecodable _ | .charset _ _ | .notJson _ | .schema _ _ => true
  | .transport failure _ => failure.isAboutValue
  | _ => false

end Fault

end TenantGateway
