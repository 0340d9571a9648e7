import TenantGateway.Text.Encoding

/-! # UTF-7

UTF-7: bytes below 128 stand for themselves, but a plus sign opens a stretch of Base64 digits that
holds 16-bit units. A minus sign closes it; another character closes it too, and counts.
-/
namespace TenantGateway.Text.Utf7

/-- Outside a stretch; or inside one, with some bits left over from its digits and perhaps the first
half of a pair. -/
inductive State where
  | direct
  | shifted (bits left : Nat) (high : Option Nat)
  deriving DecidableEq, Repr

def digit? (b : UInt8) : Option Nat :=
  let c := Char.ofNat b.toNat
  if c.isUpper then some (c.toNat - 65)
  else if c.isLower then some (c.toNat - 71)
  else if c.isDigit then some (c.toNat + 4)
  else if c = '+' then some 62
  else if c = '/' then some 63
  else none

def unitChars (high : Option Nat) (u : Nat) : List Char × Option Nat :=
  match high with
  | none => if isHighHalf u then ([], some u) else ([charOf u], none)
  | some h =>
    if isLowHalf u then ([joinHalves h u], none)
    else if isHighHalf u then ([charOf h], some u)
    else ([charOf h, charOf u], none)

/-- Whether a stretch may not end here: a digit too many, or bits left over that are not zero. -/
def isUneven (bits left : Nat) : Bool := bits ≥ 6 || left ≠ 0

def directChar (b : UInt8) : Char := if b < 0x80 then Char.ofNat b.toNat else replacement

/-- The characters of bytes, with the replacement character for what cannot be read. What closes a
stretch is no digit, so no plus sign either. -/
def run : State → Bytes → List Char
  | .direct, [] => []
  | .direct, 0x2B :: 0x2D :: rest => '+' :: run .direct rest
  | .direct, 0x2B :: b :: rest =>
    if (digit? b).isSome then run (.shifted 0 0 none) (b :: rest)
    else replacement :: run .direct rest
  | .direct, [0x2B] => []
  | .direct, b :: rest => directChar b :: run .direct rest
  | .shifted bits left high, [] =>
    if high.isSome || isUneven bits left then [replacement] else []
  | .shifted bits left high, b :: rest =>
    match digit? b with
    | some d =>
      let held := left * 64 + d
      if bits + 6 ≥ 16 then
        let spare := Nat.pow 2 (bits - 10)
        let (cs, high) := unitChars high (held / spare)
        cs ++ run (.shifted (bits - 10) (held % spare) high) rest
      else run (.shifted (bits + 6) held high) rest
    | none =>
      if isUneven bits left then replacement :: run .direct rest
      else
        (match high with
        | some h => if b < 0x80 then [charOf h] else []
        | none => []) ++
        (if b = 0x2D then [] else [directChar b]) ++ run .direct rest

def decode (bs : Bytes) : List Char := run .direct bs

end TenantGateway.Text.Utf7
