import TenantGateway.Exchange.Call
import TenantGateway.Exchange.Response
import TenantGateway.Exchange.Run
import TenantGateway.Settings

/-! # Requests to the engine

Requests to the rules engine. A request that does not get there is the engine's failure.
-/
namespace TenantGateway.Engine

open Text

def url (settings : Settings) (path : String) : String :=
  let base := dropTrailing '/' settings.engineUrl
  if path = "" then base
  else base ++ "/" ++ String.ofList (path.toList.dropWhile (· == '/'))

def unreachable (f : Fault) : Fault :=
  if f.isTransport then .refusal .unreachable (some f) else f

/-- One request; `send` is the engine's answer to it. -/
def request (settings : Settings) (send : EngineRequest → Except Fault Response)
    (r : EngineRequest) : Run Call Response :=
  (Run.ask (.engine r.verb (url settings r.path) r.body settings.timeout) (send r)).mapFault
    unreachable

end TenantGateway.Engine
