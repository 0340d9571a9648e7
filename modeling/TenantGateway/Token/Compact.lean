import TenantGateway.Signature.Rsa
import TenantGateway.Text.Base64
import TenantGateway.Token.Problem

/-! # Tokens in compact form

Signed tokens in compact form: a header, a payload and a signature, each in Base64 with the
alphabet of URLs, divided by points.
-/
namespace TenantGateway.Token

open Text

structure Compact where
  header : Json.Fields
  payload : Bytes
  signature : Bytes
  signed : Bytes
  deriving Repr

/-- The segments: what stands before the first point, after the last, and between. -/
def segments? (cs : List Char) : Option (List Char × List Char × List Char) :=
  let last := (cs.reverse.takeWhile (· != '.')).reverse
  match (cs.reverse.dropWhile (· != '.')).reverse.dropLast with
  | [] => none
  | front =>
    match front.dropWhile (· != '.') with
    | [] => none
    | _ :: middle => some (front.takeWhile (· != '.'), middle, last)

def signedPart (token : String) : Bytes :=
  Utf8.encode (String.ofList (token.toList.reverse.dropWhile (· != '.')).reverse.dropLast)

def isDetached (header : Json.Fields) : Bool :=
  match header.lookup "b64" with
  | some (.bool false) => true
  | _ => false

def readHeader (bs : Bytes) : Except Problem Json.Fields :=
  match Json.parseBytes bs with
  | .error reason => .error (.headerText reason)
  | .ok (.obj fields) => .ok fields
  | .ok _ => .error .headerShape

/-- The first reason why a token has not the compact form, or its parts. -/
def Compact.ofToken (token : String) : Except Problem Compact :=
  match segments? token.toList with
  | none => .error .segments
  | some (head, middle, last) =>
    match Base64.decode? .url head with
    | none => .error .headerPadding
    | some bs =>
      match readHeader bs with
      | .error p => .error p
      | .ok header =>
        if isDetached header && middle ≠ [] then .error .detachedPayload
        else
          match Base64.decode? .url middle with
          | none => .error .payloadPadding
          | some payload =>
            match Base64.decode? .url last with
            | none => .error .signaturePadding
            | some signature => .ok ⟨header, payload, signature, signedPart token⟩

def checkExtensions (header : Json.Fields) : List Json → Except Problem Unit
  | [] => .ok ()
  | .str name :: rest =>
    if name ≠ "b64" then .error (.criticalUnsupported name)
    else if (header.lookup name).isNone then .error (.criticalAbsent name)
    else checkExtensions header rest
  | _ :: _ => .error .criticalNames

def checkCritical (header : Json.Fields) : Except Problem Unit :=
  match header.lookup "crit" with
  | none => .ok ()
  | some (.arr []) => .error .criticalShape
  | some (.arr names) => checkExtensions header names
  | some _ => .error .criticalShape

def checkKeyId (header : Json.Fields) : Except Problem Unit :=
  match header.lookup "kid" with
  | none => .ok ()
  | some (.str _) => .ok ()
  | some _ => .error .keyId

def algorithm (header : Json.Fields) : Except Problem RsaAlgorithm :=
  match header.lookup "alg" with
  | none => .error .algorithmAbsent
  | some (.str name) =>
    match RsaAlgorithm.ofName? name with
    | some a => .ok a
    | none => .error .algorithmRefused
  | some _ => .error .algorithmRefused

def Compact.check (key : RsaKey) (t : Compact) : Except Problem Unit := do
  checkKeyId t.header
  checkCritical t.header
  if isDetached t.header then
    .error (if (t.header.lookup "crit").isSome then .payloadAbsent else .detachedUnlisted)
  let a ← algorithm t.header
  if key.verifies a t.signed t.signature then .ok () else .error .signature

def readPayload (bs : Bytes) : Except Problem Json.Fields :=
  match Json.parseBytes bs with
  | .error reason => .error (.payloadText reason)
  | .ok (.obj fields) => .ok fields
  | .ok _ => .error .payloadShape

end TenantGateway.Token
