import TenantGateway.Text.Encoding

/-! # Punycode

Punycode: the ASCII characters of a text, and after the last hyphen where the others go among them,
as a row of numbers in digits of growing weight.
-/
namespace TenantGateway.Text.Punycode

def digit? (c : Char) : Option Nat :=
  let c := c.toUpper
  if c.isUpper then some (c.toNat - 65) else if c.isDigit then some (c.toNat - 22) else none

def threshold (j bias : Nat) : Nat := min 26 (max 1 (36 * (j + 1) - bias))

/-- A number whose digits so far, `j` of them, make `value`; the next one weighs `weight`. -/
def number (bias : Nat) : Nat → Nat → Nat → List Char → Option (Nat × List Char)
  | _, _, _, [] => none
  | j, weight, value, c :: rest =>
    match digit? c with
    | none => none
    | some d =>
      let t := threshold j bias
      let value := value + d * weight
      if d < t then some (value, rest) else number bias (j + 1) (weight * (36 - t)) value rest

def divisions (delta : Nat) : Nat × Nat :=
  if 455 < delta then
    let (steps, least) := divisions (delta / 35)
    (steps + 1, least)
  else (0, delta)
termination_by delta
decreasing_by exact Nat.div_lt_self (by omega) (by omega)

def adapt (delta : Nat) (isFirst : Bool) (count : Nat) : Nat :=
  let delta := if isFirst then delta / 700 else delta / 2
  let (steps, least) := divisions (delta + delta / count)
  36 * steps + 36 * least / (least + 38)

/-- Puts at most `fuel` characters into a text. `code` is the code of the last one and `next` the
place after it; a number that cannot be read ends the text. -/
def insert : Nat → Bool → Nat → Nat → Nat → List Char → List Char → List Char
  | 0, _, _, _, _, text, _ => text
  | _ + 1, _, _, _, _, text, [] => text
  | fuel + 1, isFirst, bias, code, next, text, digits =>
    match number bias 0 1 0 digits with
    | none => text
    | some (delta, rest) =>
      let place := next + delta
      let room := text.length + 1
      let code := code + place / room
      let code := if code < 0x110000 then code else 0x3F
      let place := place % room
      let text := text.take place ++ charOf code :: text.drop place
      insert fuel false (adapt delta isFirst text.length) code (place + 1) text rest

/-- The characters of bytes, or the first byte after the hyphen that is not ASCII. -/
def decode (bs : Bytes) : Except Undecodable (List Char) :=
  let digits := (bs.reverse.takeWhile (· != 0x2D)).reverse
  let basic := bs.take (bs.length - digits.length - 1)
  match Encoding.ascii.decode? false 0 digits with
  | .error u => .error u
  | .ok digits =>
    .ok (insert digits.length true 72 0x80 0
      ((Encoding.ascii.pieces false basic).map Piece.orReplacement) digits)

end TenantGateway.Text.Punycode
