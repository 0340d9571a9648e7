import TenantGateway.Number.Binary64

/-! # Shortest decimal texts

The shortest decimal text of a floating-point number: the fewest digits that read back as the
number, and of those the nearest to it; of two as near, the one whose last digit is even.
-/
namespace TenantGateway.Shortest

/-- The largest power of ten, by its exponent, that is not above `num / den`; the binary
logarithms give it up to one. -/
def decimalExponent (num den : Nat) : Int :=
  let atLeast (p : Int) : Bool :=
    if 0 ≤ p then den * tenPow p.toNat ≤ num else den ≤ num * tenPow (-p).toNat
  let guess : Int := (((num.log2 : Int) - den.log2) * 30103) / 100000
  if atLeast (guess + 1) then guess + 1
  else if atLeast guess then guess
  else guess - 1

/-- Digits `d` and a power `k` such that `d * 10 ^ k` reads back, tried from `count` digits up.
The number is `v / den`, and what reads back as it lies between `low / den` and `high / den`, the
ends counting if `closed`. -/
def search (v low high den : Nat) (closed : Bool) (p : Int) : Nat → Nat → Nat × Int
  | _, 0 => (v / den, 0)
  | count, tries + 1 =>
    let k := p + 1 - count
    let den' := if 0 ≤ k then den * tenPow k.toNat else den
    let scale := if 0 ≤ k then 1 else tenPow (-k).toNat
    let below := v * scale / den'
    let fits (d : Nat) : Bool :=
      if closed then low * scale ≤ d * den' && d * den' ≤ high * scale
      else low * scale < d * den' && d * den' < high * scale
    let above := below + 1
    let twice := 2 * (v * scale)
    let middle := (below + above) * den'
    let takeBelow := twice < middle || (twice == middle && below % 2 == 0)
    if fits below && (takeBelow || !fits above) then (below, k)
    else if fits above then (above, k)
    else search v low high den closed p (count + 1) tries

def decimal (mantissa : Nat) (exponent : Int) : Nat × Int :=
  let e := exponent - 2
  let scale := if 0 ≤ e then twoPow e.toNat else 1
  let den := if 0 ≤ e then 1 else twoPow (-e).toNat
  let v := 4 * mantissa * scale
  let high := (4 * mantissa + 2) * scale
  let low := (4 * mantissa - if mantissa = twoPow 52 ∧ -1074 < exponent then 1 else 2) * scale
  search v low high den (mantissa % 2 = 0) (decimalExponent v den) 1 17

structure Layout where
  leastPositional : Int
  firstScientific : Int
  exponentWidth : Nat

/-- Positional from 1e-4 up to below 1e16, and exponents of at least two digits with a sign. -/
def layout : Layout := ⟨-4, 16, 2⟩

def trimZeros (digits : Nat) (power : Int) : Nat → Nat × Int
  | 0 => (digits, power)
  | fuel + 1 =>
    if digits ≠ 0 ∧ digits % 10 = 0 then trimZeros (digits / 10) (power + 1) fuel
    else (digits, power)

def zeros (n : Nat) : String := String.ofList (List.replicate n '0')

def Layout.write (l : Layout) (digits : Nat) (power : Int) : String :=
  let (digits, power) := trimZeros digits power 17
  let ds := toString digits
  let p : Int := power + ds.length - 1
  if p < l.leastPositional ∨ l.firstScientific ≤ p then
    let head := String.ofList (ds.toList.take 1)
    let tail := String.ofList (ds.toList.drop 1)
    let size := toString p.natAbs
    head ++ (if tail = "" then "" else "." ++ tail) ++ "e" ++ (if p < 0 then "-" else "+") ++
      zeros (l.exponentWidth - size.length) ++ size
  else if 0 ≤ power then ds ++ zeros power.toNat ++ ".0"
  else if 0 ≤ p then
    String.ofList (ds.toList.take (p.toNat + 1)) ++ "." ++
      String.ofList (ds.toList.drop (p.toNat + 1))
  else "0." ++ zeros ((-p).toNat - 1) ++ ds

end TenantGateway.Shortest

namespace TenantGateway

def Binary64.text : Binary64 → String
  | .nan => "nan"
  | .infinite negative => if negative then "-inf" else "inf"
  | .finite negative m e =>
    let size :=
      if m = 0 then "0.0"
      else
        let (digits, power) := Shortest.decimal m e
        Shortest.layout.write digits power
    (if negative then "-" else "") ++ size

end TenantGateway
