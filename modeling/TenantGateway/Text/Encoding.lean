import TenantGateway.Text.Hex
import TenantGateway.Text.Utf8

/-! # Encodings of text

Encodings whose bytes are strictly text or not, and those that a JSON text is recognised by from its
first bytes. With `surrogates`, half of a surrogate pair on its own is let through as the
replacement character, since it has no place in a text.
-/
namespace TenantGateway.Text

inductive ByteOrder where
  | little
  | big
  deriving DecidableEq, Repr

inductive Encoding where
  | utf8
  | utf16 (order : ByteOrder)
  | utf32 (order : ByteOrder)
  | ascii
  deriving DecidableEq, Repr

def ByteOrder.value (order : ByteOrder) (bs : Bytes) : Nat :=
  match order with
  | .little => bs.foldr (fun b n => b.toNat + 256 * n) 0
  | .big => bs.foldl (fun n b => 256 * n + b.toNat) 0

def isHighHalf (n : Nat) : Bool := 0xD800 ≤ n && n < 0xDC00

def isLowHalf (n : Nat) : Bool := 0xDC00 ≤ n && n < 0xE000

def joinHalves (high low : Nat) : Char :=
  Char.ofNat (0x10000 + (high - 0xD800) * 1024 + (low - 0xDC00))

/-- One unit as a character; half of a pair is let through only with `surrogates`. -/
def unit (surrogates : Bool) (value width : Nat) : Piece :=
  if (isHighHalf value || isLowHalf value) && !surrogates then .bad width .loneSurrogate
  else .char (charOf value) width

def pieces16 (order : ByteOrder) (surrogates : Bool) : Bytes → List Piece
  | [] => []
  | [_] => [.bad 1 .cutShort]
  | a :: b :: rest =>
    let u := order.value [a, b]
    if isHighHalf u then
      match rest with
      | c :: d :: more =>
        let v := order.value [c, d]
        if isLowHalf v then .char (joinHalves u v) 4 :: pieces16 order surrogates more
        else unit surrogates u 2 :: pieces16 order surrogates (c :: d :: more)
      | rest =>
        if surrogates then unit true u 2 :: pieces16 order surrogates rest
        else [.bad (2 + rest.length) .unfinished]
    else unit surrogates u 2 :: pieces16 order surrogates rest

def pieces32 (order : ByteOrder) (surrogates : Bool) : Bytes → List Piece
  | [] => []
  | a :: b :: c :: d :: rest =>
    let value := order.value [a, b, c, d]
    (if value < 0x110000 then unit surrogates value 4 else .bad 4 .outOfRange) ::
      pieces32 order surrogates rest
  | rest => [.bad rest.length .cutShort]

namespace Encoding

def pieces (surrogates : Bool) (bs : Bytes) : Encoding → List Piece
  | .utf8 => Utf8.pieces surrogates bs
  | .utf16 order => pieces16 order surrogates bs
  | .utf32 order => pieces32 order surrogates bs
  | .ascii => bs.map fun b => if b < 0x80 then .char (Char.ofNat b.toNat) 1 else .bad 1 .notAscii

def decodeLossy (e : Encoding) (bs : Bytes) : List Char :=
  (e.pieces false bs).map Piece.orReplacement

def kind : Encoding → Nat
  | .utf8 => 8
  | .utf16 _ => 16
  | .utf32 _ => 32
  | .ascii => 7

def name : Encoding → String
  | .utf8 => "utf-8"
  | .utf16 .little => "utf-16-le"
  | .utf16 .big => "utf-16-be"
  | .utf32 .little => "utf-32-le"
  | .utf32 .big => "utf-32-be"
  | .ascii => "ascii"

/-- The mark before a text in UTF-16, UTF-32 or UTF-8, with the encoding it stands for. Only the
encodings that `among` admits are looked for. -/
def ofMark? (among : Encoding → Bool) (bs : Bytes) : Option (Encoding × Nat) :=
  let marks : List (Encoding × Bytes) :=
    [(.utf32 .big, [0x00, 0x00, 0xFE, 0xFF]), (.utf32 .little, [0xFF, 0xFE, 0x00, 0x00]),
      (.utf16 .big, [0xFE, 0xFF]), (.utf16 .little, [0xFF, 0xFE]), (.utf8, [0xEF, 0xBB, 0xBF])]
  (marks.find? fun (e, mark) => among e && mark.isPrefixOf bs).map fun (e, mark) => (e, mark.length)

/-- The encoding of a JSON text and the length of the mark before it: by the mark if there is
one, else by where the zero bytes stand in its first characters. -/
def ofJson (bs : Bytes) : Encoding × Nat :=
  match ofMark? (fun _ => true) bs with
  | some found => found
  | none =>
    match bs with
    | a :: b :: c :: d :: _ =>
      if a = 0 then (if b = 0 then .utf32 .big else .utf16 .big, 0)
      else if b = 0 then (if c = 0 ∧ d = 0 then .utf32 .little else .utf16 .little, 0)
      else (.utf8, 0)
    | [a, b] => (if a = 0 then .utf16 .big else if b = 0 then .utf16 .little else .utf8, 0)
    | _ => (.utf8, 0)

/-- The encoding of a JSON text of at least four bytes, with the length of the mark before it, as
far as its first four bytes tell: the zero bytes of ASCII characters are all there, or none is. -/
def ofJsonSample? (bs : Bytes) : Option (Encoding × Nat) :=
  match ofMark? (fun _ => true) bs with
  | some found => some found
  | none =>
    match (bs.take 4).map (· == 0) with
    | [false, false, false, false] => some (.utf8, 0)
    | [true, false, true, false] => some (.utf16 .big, 0)
    | [false, true, false, true] => some (.utf16 .little, 0)
    | [true, true, true, false] => some (.utf32 .big, 0)
    | [false, true, true, true] => some (.utf32 .little, 0)
    | _ => none

end Encoding

def Reason.text : Reason → String
  | .badStart => "invalid start byte"
  | .badContinuation => "invalid continuation byte"
  | .unfinished => "unexpected end of data"
  | .loneSurrogate => "illegal encoding"
  | .outOfRange => "code point not in range(0x110000)"
  | .notAscii => "ordinal not in range(128)"
  | .cutShort => "truncated data"

structure Undecodable where
  encoding : Encoding
  byte : UInt8
  start : Nat
  width : Nat
  reason : Reason
  deriving DecidableEq, Repr

def Undecodable.text (u : Undecodable) : String :=
  let place :=
    if u.width = 1 then
      "byte 0x" ++ String.ofList [hexDigit false (u.byte.toNat / 16),
        hexDigit false (u.byte.toNat % 16)] ++ " in position " ++ toString u.start
    else "bytes in position " ++ toString u.start ++ "-" ++ toString (u.start + u.width - 1)
  "'" ++ u.encoding.name ++ "' codec can't decode " ++ place ++ ": " ++ u.reason.text

/-- The characters of pieces, or where and why the first of them is none. -/
def collect (offset : Nat) : List Piece → Except (Nat × Nat × Reason) (List Char)
  | [] => .ok []
  | .char c width :: rest => (collect (offset + width) rest).map (c :: ·)
  | .bad width reason :: _ => .error (offset, width, reason)

def Encoding.decode? (e : Encoding) (surrogates : Bool) (skip : Nat) (bs : Bytes) :
    Except Undecodable (List Char) :=
  (collect 0 (e.pieces surrogates (bs.drop skip))).mapError fun (offset, width, reason) =>
    ⟨e, (bs.drop skip).getD offset 0, (if e = .utf8 then 0 else skip) + offset, width, reason⟩

def decodeJsonText (bs : Bytes) : Except Undecodable (List Char) :=
  let (encoding, skip) := Encoding.ofJson bs
  encoding.decode? true skip bs

end TenantGateway.Text
