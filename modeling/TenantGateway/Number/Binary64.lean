import TenantGateway.Number.Power

/-! # Floating-point numbers

Floating-point numbers with 53 bits of precision, as exact values: a number is a whole multiple of
a power of two. Rounding is to nearest, a tie going to the even multiple.
-/
namespace TenantGateway

/-- A finite number is `mantissa * 2 ^ exponent`, negated if it is negative. The mantissa is below
`2 ^ 53`, and not below `2 ^ 52` unless the exponent is the least one, -1074. -/
inductive Binary64 where
  | nan
  | infinite (negative : Bool)
  | finite (negative : Bool) (mantissa : Nat) (exponent : Int)
  deriving DecidableEq, Repr, Inhabited

namespace Binary64

def zero (negative : Bool) : Binary64 := .finite negative 0 (-1074)

/-- The whole number nearest to `num / den`; of two, the even one. -/
def nearest (num den : Nat) : Nat :=
  let q := num / den
  let r := num % den
  if 2 * r < den ∨ (2 * r = den ∧ q % 2 = 0) then q else q + 1

def inUnits (num den : Nat) (e : Int) : Nat × Nat :=
  if 0 ≤ e then (num, den * twoPow e.toNat) else (num * twoPow (-e).toNat, den)

def ofFraction (negative : Bool) (num den : Nat) : Binary64 :=
  if num = 0 then zero negative
  else
    let low : Int := max ((num.log2 : Int) - den.log2 - 53) (-1074)
    let (n, d) := inUnits num den low
    let e := if n / d < twoPow 53 then low else low + 1
    let (n, d) := inUnits num den e
    let m := nearest n d
    let (m, e) := if m = twoPow 53 then (twoPow 52, e + 1) else (m, e)
    if 971 < e then .infinite negative
    else if m = 0 then zero negative
    else .finite negative m e

/-- The number nearest to `digits * 10 ^ power`. Powers that leave the range on their own are not
worked out. -/
def ofDecimal (negative : Bool) (digits : Nat) (power : Int) : Binary64 :=
  if digits = 0 then zero negative
  else
    let width : Int := (digits.log2 * 30103 / 100000 : Nat)
    if 400 < width + power then .infinite negative
    else if width + power < -400 then zero negative
    else if 0 ≤ power then ofFraction negative (digits * tenPow power.toNat) 1
    else ofFraction negative digits (tenPow (-power).toNat)

def ofInt (n : Int) : Binary64 := ofFraction (n < 0) n.natAbs 1

def isFinite : Binary64 → Bool
  | .finite _ _ _ => true
  | _ => false

def wholePart (mantissa : Nat) (exponent : Int) : Nat × Bool :=
  if 0 ≤ exponent then (mantissa * twoPow exponent.toNat, false)
  else (mantissa / twoPow (-exponent).toNat, mantissa % twoPow (-exponent).toNat ≠ 0)

def truncate? : Binary64 → Option Int
  | .finite negative m e =>
    let n : Int := (wholePart m e).1
    some (if negative then -n else n)
  | _ => none

def hasFraction : Binary64 → Bool
  | .finite _ m e => (wholePart m e).2
  | _ => false

end Binary64

end TenantGateway
