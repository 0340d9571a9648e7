import TenantGateway.Text.Hex
import TenantGateway.Text.Utf8

/-! # Percent-encoding

Percent-encoding: a byte outside the set that may stand for itself is written as `%` and two hex
digits. Reading leaves a `%` that no two hex digits follow as it is.
-/
namespace TenantGateway.Text.Percent

/-- Letters, digits and `_.-~`. -/
def isUnreserved (b : UInt8) : Bool :=
  let c := Char.ofNat b.toNat
  c.isAlphanum || c == '_' || c == '.' || c == '-' || c == '~'

def encodeByte (safe : UInt8 → Bool) (b : UInt8) : List Char :=
  if safe b then [Char.ofNat b.toNat]
  else ['%', hexDigit true (b.toNat / 16), hexDigit true (b.toNat % 16)]

def encodeBytes (safe : UInt8 → Bool) (bs : Bytes) : List Char := bs.flatMap (encodeByte safe)

def encodeSegment (s : String) : String :=
  String.ofList (encodeBytes isUnreserved (Utf8.encode s))

/-- A URL in which everything that has a meaning in URLs is left as it is. -/
def encodeUrl (s : String) : String :=
  let marks := ":/%#?=@[]!$&'()*+,;".toList.map fun c => UInt8.ofNat c.toNat
  String.ofList (encodeBytes (fun b => isUnreserved b || marks.contains b) (Utf8.encode s))

def decodeBytes : List Char → Bytes
  | [] => []
  | '%' :: a :: b :: rest =>
    match hexValue? a, hexValue? b with
    | some x, some y => UInt8.ofNat (16 * x + y) :: decodeBytes rest
    | _, _ => 0x25 :: decodeBytes (a :: b :: rest)
  | c :: rest => Utf8.encodeChar c ++ decodeBytes rest

def decode (s : String) : String := Utf8.decodeLossy (decodeBytes s.toList)

end TenantGateway.Text.Percent
