import TenantGateway.Exchange.Call
import TenantGateway.Exchange.Response
import TenantGateway.Exchange.Run
import TenantGateway.Settings

/-! # Channel look-ups

Looking up a channel with the caller's own token: it exists and the caller may see it, or it is
refused.
-/
namespace TenantGateway.Channels

open Text

def url (settings : Settings) (id : String) : String :=
  dropTrailing '/' settings.channelsUrl ++ "/channels/" ++ id

def refuse (reason : ChannelRefusal) (cause : Option Fault) : Except Fault Json :=
  .error (.channel reason cause)

/-- What an answer says of a channel. The body of an answer that refuses is read before it is
reported. -/
def judge (id : String) (r : Response) : Except Fault Json :=
  if r.status ≠ 200 then
    match r.text with
    | .error f => .error f
    | .ok _ => refuse (.status id r.status) none
  else
    match r.json with
    | .ok v => .ok v
    | .error f => if f.isAboutValue then refuse (.payload id) (some f) else .error f

def conclude (id : String) : Except Fault Response → Except Fault Json
  | .ok r => judge id r
  | .error f => if f.isTransport then refuse .unreachable (some f) else .error f

/-- One request, or none for an empty id; `send` is the service's answer to it. -/
def lookup (settings : Settings) (send : String → Except Fault Response) (id token : String) :
    Run Call Json :=
  if id = "" then .ofOutcome (refuse .emptyId none)
  else
    .ask (.channel (url settings id) ("Bearer " ++ token) settings.timeout)
      (conclude id (send (url settings id)))

end TenantGateway.Channels
