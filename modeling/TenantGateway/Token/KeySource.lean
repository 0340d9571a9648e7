import TenantGateway.Fault
import TenantGateway.Settings
import TenantGateway.Text.Address
import TenantGateway.Text.Quoted

/-! # Where keys come from

Where signing keys are fetched from: a URL whose scheme is http or https.
-/
namespace TenantGateway.Token

open Text

/-- What counts in a URL. Controls and spaces before it, and tabs and line ends anywhere, do
not. -/
def significant (url : String) : List Char :=
  (url.toList.dropWhile fun c => c.toNat ≤ 0x20).filter
    fun c => !(c == '\t' || c == '\n' || c == '\r')

/-- The scheme of a URL, in lower case, and what follows its colon. A scheme is a letter and then
letters, digits and `+-.`; a URL may have none. -/
def splitScheme (url : List Char) : String × List Char :=
  let front := url.takeWhile (· != ':')
  let rest := url.drop (front.length + 1)
  let inScheme (c : Char) : Bool := c.isAlphanum || c == '+' || c == '-' || c == '.'
  match front with
  | [] => ("", url)
  | c :: _ =>
    if front.length < url.length && c.isAlpha && front.all inScheme then
      ((String.ofList front).toLower, rest)
    else ("", url)

def authorityPart : List Char → List Char
  | '/' :: '/' :: rest => rest.takeWhile fun c => !(c == '/' || c == '?' || c == '#')
  | _ => []

def afterLast (mark : Char) (cs : List Char) : List Char :=
  (cs.reverse.takeWhile (· != mark)).reverse

def addressObjection? (address : List Char) : Option String :=
  if address.head? = some 'v' then
    if Address.isFuture (· != '\n') address then none else some "IPvFuture address is invalid"
  else if Address.isIPv4 address then some "An IPv4 address cannot be in brackets"
  else if Address.isZonedIPv6 address then none
  else some (quoted (String.ofList address) ++ " does not appear to be an IPv4 or IPv6 address")

/-- Marks that become marks of a URL when texts are brought into their plain form. -/
def disguised : List Nat :=
  [0x2047, 0x2048, 0x2049, 0x2100, 0x2101, 0x2105, 0x2106, 0x2A74, 0xFE13, 0xFE16, 0xFE55, 0xFE56,
    0xFE5F, 0xFE6B, 0xFF03, 0xFF0F, 0xFF1A, 0xFF1F, 0xFF20]

/-- What is wrong with the brackets of a host. They stand around all of it but a port; the name of
a user before it does not count. -/
def bracketObjection? (host : List Char) : Option String :=
  if host.contains '[' != host.contains ']' then some "Invalid IPv6 URL"
  else if !host.contains '[' then none
  else
    let host := afterLast '@' host
    match host.takeWhile (· != '['), host.dropWhile (· != '[') with
    | [], _ :: bracketed =>
      match (bracketed.dropWhile (· != ']')).drop 1 with
      | [] | ':' :: _ => addressObjection? (bracketed.takeWhile (· != ']'))
      | _ => some "Invalid IPv6 URL"
    | _, [] => addressObjection? (host.takeWhile (· != ':'))
    | _, _ => some "Invalid IPv6 URL"

def hostObjection? (host : List Char) : Option String :=
  match bracketObjection? host with
  | some text => some text
  | none =>
    if host.any fun c => disguised.contains c.toNat then
      some ("netloc '" ++ String.ofList host ++
        "' contains invalid characters under NFKC normalization")
    else none

/-- The URL that keys are fetched from. Its host is looked at before its scheme. -/
def keySource (settings : Settings) : Except Fault String :=
  let url := settings.keySetUrl
  let (scheme, rest) := splitScheme (significant url)
  match hostObjection? (authorityPart rest) with
  | some text => .error (.value text)
  | none =>
    if scheme = "http" ∨ scheme = "https" then .ok url
    else
      .error (.signing (.reported .keyService
        ("Invalid JWKS URI scheme '" ++ scheme ++ "': only 'http' and 'https' are supported.")))

end TenantGateway.Token
