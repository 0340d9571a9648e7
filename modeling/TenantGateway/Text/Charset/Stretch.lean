import TenantGateway.Text.Utf8

/-! # Reading step by step

Reading bytes in a charset whose characters are of several lengths. A step looks at the first of the
bytes that are left; what is no character becomes one replacement character.
-/
namespace TenantGateway.Text

/-- What the first bytes are: characters, no character, or the start of one that is not all
there. -/
inductive Stretch where
  | read (cs : List Char) (width : Nat)
  | bad (width : Nat)
  | cut
  deriving DecidableEq, Repr

namespace Stretch

def readFrom {σ : Type} (step : σ → Bytes → Stretch × σ) : Nat → σ → Bytes → List Char
  | 0, _, _ => []
  | _ + 1, _, [] => []
  | fuel + 1, s, bs =>
    match step s bs with
    | (.read cs width, s) => cs ++ readFrom step fuel s (bs.drop width)
    | (.bad width, s) => replacement :: readFrom step fuel s (bs.drop width)
    | (.cut, _) => [replacement]

/-- The text of bytes. Each step takes at least one of them. -/
def decodeFrom {σ : Type} (step : σ → Bytes → Stretch × σ) (s : σ) (bs : Bytes) : List Char :=
  readFrom step bs.length s bs

def decode (step : Bytes → Stretch) (bs : Bytes) : List Char :=
  decodeFrom (fun (_ : Unit) bs => (step bs, ())) () bs

def one (code width : Nat) : Stretch := .read [charOf code] width

def ofChar? (width : Nat) : Option Char → Stretch
  | some c => .read [c] width
  | none => .bad 1

def double (pair : Nat → Nat → Option Char) : Bytes → Stretch
  | [] => .cut
  | a :: rest =>
    if a < 0x80 then one a.toNat 1
    else
      match rest with
      | [] => .cut
      | b :: _ => ofChar? 2 (pair a.toNat b.toNat)

end Stretch

end TenantGateway.Text
