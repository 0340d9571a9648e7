import TenantGateway.Text.Hex
import TenantGateway.Text.Printable

/-! # Quoted texts

Texts between quotes, with what does not print written out.
-/
namespace TenantGateway.Text

def apostrophe : Char := Char.ofNat 0x27

def hexDigits : Nat → Nat → List Char
  | 0, _ => []
  | count + 1, n => hexDigits count (n / 16) ++ [hexDigit false (n % 16)]

def quotedChar (quote c : Char) : List Char :=
  if c = quote ∨ c = '\\' then ['\\', c]
  else if c = '\n' then ['\\', 'n']
  else if c = '\r' then ['\\', 'r']
  else if c = '\t' then ['\\', 't']
  else if !isUnprintable c then [c]
  else if c.toNat < 0x100 then '\\' :: 'x' :: hexDigits 2 c.toNat
  else if c.toNat < 0x10000 then '\\' :: 'u' :: hexDigits 4 c.toNat
  else '\\' :: 'U' :: hexDigits 8 c.toNat

/-- A text between apostrophes, or between double quotes if it holds apostrophes and no double
quotes. -/
def quoted (s : String) : String :=
  let cs := s.toList
  let quote := if cs.contains apostrophe && !cs.contains '"' then '"' else apostrophe
  String.ofList (quote :: cs.flatMap (quotedChar quote) ++ [quote])

end TenantGateway.Text
