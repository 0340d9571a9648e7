import TenantGateway.Text.Utf8

/-! # Base64

Base64 without tolerance: every character is of the alphabet, `=` stands only where it completes
the last group of four, and the bits that a last group does not use are zero.
-/
namespace TenantGateway.Text.Base64

structure Alphabet where
  plus : Char
  slash : Char

def Alphabet.standard : Alphabet := ⟨'+', '/'⟩

def Alphabet.url : Alphabet := ⟨'-', '_'⟩

def Alphabet.value? (a : Alphabet) (c : Char) : Option Nat :=
  if 'A' ≤ c ∧ c ≤ 'Z' then some (c.toNat - 65)
  else if 'a' ≤ c ∧ c ≤ 'z' then some (c.toNat - 71)
  else if '0' ≤ c ∧ c ≤ '9' then some (c.toNat + 4)
  else if c = a.plus then some 62
  else if c = a.slash then some 63
  else none

/-- The bytes of six-bit values; a last group has two or three values. -/
def ofSextets : List Nat → Option Bytes
  | [] => some []
  | [_] => none
  | [a, b] => if b % 16 = 0 then some [UInt8.ofNat (a * 4 + b / 16)] else none
  | [a, b, c] =>
    if c % 4 = 0 then
      some [UInt8.ofNat (a * 4 + b / 16), UInt8.ofNat (b % 16 * 16 + c / 4)]
    else none
  | a :: b :: c :: d :: rest =>
    (ofSextets rest).map fun bs =>
      UInt8.ofNat (a * 4 + b / 16) :: UInt8.ofNat (b % 16 * 16 + c / 4) ::
        UInt8.ofNat (c % 4 * 64 + d) :: bs

/-- At most two `=` are dropped from the end, and only from a text a multiple of four long. -/
def unpad (cs : List Char) : List Char :=
  if cs.length % 4 = 0 then
    match cs.reverse with
    | '=' :: '=' :: rest => rest.reverse
    | '=' :: rest => rest.reverse
    | _ => cs
  else cs

def decode? (a : Alphabet) (cs : List Char) : Option Bytes :=
  ((unpad cs).mapM a.value?).bind ofSextets

end TenantGateway.Text.Base64
