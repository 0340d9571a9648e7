import TenantGateway.Http.Message
import TenantGateway.Text.Address

/-! # The host of a request

The host that a request names, with a port or without. It counts only if it has the form that URLs
give to hosts.
-/
namespace TenantGateway.Http.Host

open Text

/-- Letters, digits and the marks that mean nothing in a URL, or only in some of its parts. -/
def isPlain (c : Char) : Bool :=
  c.isAlphanum || "-._~!$&'()*+,;=".toList.contains c

def isName : List Char → Bool
  | [] => true
  | '%' :: a :: b :: rest => (hexValue? a).isSome && (hexValue? b).isSome && isName rest
  | c :: rest => isPlain c && isName rest

def isPort : List Char → Bool
  | [] => true
  | ':' :: digits => digits.all Char.isDigit
  | _ => false

/-- A name, or an address between brackets; then perhaps a port. -/
def isValid (host : String) : Bool :=
  match host.toList with
  | '[' :: rest =>
    let address := rest.takeWhile (· != ']')
    match rest.dropWhile (· != ']') with
    | ']' :: port =>
      (Address.isIPv6 address || Address.isFuture (fun c => isPlain c || c == ':') address) &&
        isPort port
    | _ => false
  | cs =>
    let name := cs.takeWhile (· != ':')
    name ≠ [] && isName name && isPort (cs.dropWhile (· != ':'))

def ofRequest (r : Request) : String :=
  match r.header? "host" with
  | some host => if isValid host then host else "testserver"
  | none => "testserver"

end TenantGateway.Http.Host
