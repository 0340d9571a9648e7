/-! # UTF-8

UTF-8: writing characters as bytes, and reading bytes one at a time. Bytes that no character has
are told apart by the longest starts of characters that they form.

Texts are sequences of Unicode scalar values, here and in all that follows: no text has half of a
surrogate pair on its own. Where bytes or an escape spell such a half and are let through, the
replacement character is read for it.
-/
namespace TenantGateway.Text

abbrev Bytes := List UInt8

def replacement : Char := Char.ofNat 0xFFFD

/-- The character with a given code. Half of a surrogate pair is the code of none, and the
replacement character stands in for it. -/
def charOf (value : Nat) : Char :=
  if 0xD800 ≤ value ∧ value < 0xE000 then replacement else Char.ofNat value

inductive Reason where
  | badStart
  | badContinuation
  | unfinished
  | loneSurrogate
  | outOfRange
  | notAscii
  | cutShort
  deriving DecidableEq, Repr

inductive Piece where
  | char (c : Char) (width : Nat)
  | bad (width : Nat) (reason : Reason)
  deriving DecidableEq, Repr

def Piece.orReplacement : Piece → Char
  | .char c _ => c
  | .bad _ _ => replacement

namespace Utf8

def encodeChar (c : Char) : Bytes :=
  let n := c.toNat
  if n < 0x80 then [UInt8.ofNat n]
  else if n < 0x800 then [UInt8.ofNat (0xC0 + n / 64), UInt8.ofNat (0x80 + n % 64)]
  else if n < 0x10000 then
    [UInt8.ofNat (0xE0 + n / 4096), UInt8.ofNat (0x80 + n / 64 % 64), UInt8.ofNat (0x80 + n % 64)]
  else
    [UInt8.ofNat (0xF0 + n / 262144), UInt8.ofNat (0x80 + n / 4096 % 64),
      UInt8.ofNat (0x80 + n / 64 % 64), UInt8.ofNat (0x80 + n % 64)]

def encode (s : String) : Bytes := s.toList.flatMap encodeChar

/-- Between two characters; or inside one: how many bytes are owed, the bounds of the next one, the
value so far and the number of bytes read; or before the last byte of half a pair. -/
inductive State where
  | start
  | inside (owed lo hi value width : Nat)
  | half
  deriving DecidableEq, Repr

def first (b : Nat) : List Piece × State :=
  if b < 0x80 then ([.char (Char.ofNat b) 1], .start)
  else if b < 0xC2 then ([.bad 1 .badStart], .start)
  else if b < 0xE0 then ([], .inside 1 0x80 0xBF (b - 0xC0) 1)
  else if b < 0xF0 then
    ([], .inside 2 (if b = 0xE0 then 0xA0 else 0x80) (if b = 0xED then 0x9F else 0xBF) (b - 0xE0) 1)
  else if b < 0xF5 then
    ([], .inside 3 (if b = 0xF0 then 0x90 else 0x80) (if b = 0xF4 then 0x8F else 0xBF)
      (b - 0xF0) 1)
  else ([.bad 1 .badStart], .start)

def brokenHalf : List Piece := [.bad 1 .badContinuation, .bad 1 .badStart]

/-- One byte more. With `surrogates`, the halves of a pair are let through, to be read as the
replacement character. -/
def next (surrogates : Bool) : State → Nat → List Piece × State
  | .start, b => first b
  | .inside owed lo hi value width, b =>
    if lo ≤ b ∧ b ≤ hi then
      let value := value * 64 + (b - 0x80)
      if owed ≤ 1 then ([.char (charOf value) (width + 1)], .start)
      else ([], .inside (owed - 1) 0x80 0xBF value (width + 1))
    else if surrogates ∧ hi = 0x9F ∧ 0xA0 ≤ b ∧ b ≤ 0xBF then ([], .half)
    else
      let (pieces, state) := first b
      (.bad width .badContinuation :: pieces, state)
  | .half, b =>
    if 0x80 ≤ b ∧ b ≤ 0xBF then ([.char replacement 3], .start)
    else
      let (pieces, state) := first b
      (brokenHalf ++ pieces, state)

def run (surrogates : Bool) : State → Bytes → List Piece
  | .start, [] => []
  | .inside _ _ _ _ width, [] => [.bad width .unfinished]
  | .half, [] => brokenHalf
  | state, b :: bs =>
    let (pieces, state) := next surrogates state b.toNat
    pieces ++ run surrogates state bs

def pieces (surrogates : Bool) (bs : Bytes) : List Piece := run surrogates .start bs

def decodeLossy (bs : Bytes) : String :=
  String.ofList ((pieces false bs).map Piece.orReplacement)

end Utf8

end TenantGateway.Text
