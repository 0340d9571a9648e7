import TenantGateway.Text.Charset.Chinese
import TenantGateway.Text.Charset.Japanese
import TenantGateway.Text.Charset.Korean

/-! # Charsets that change sets

Charsets of seven bits, in which escape sequences say which set of characters the bytes that follow
are of.
-/
namespace TenantGateway.Text.Shifted

open Japanese (Edition)

inductive Set where
  | ascii
  | roman
  | kana
  | jis0208
  | jis0212
  | jis0213 (edition : Edition)
  | jis0213Second
  | ks
  | gb
  | latin
  | greek
  deriving DecidableEq, Repr

/-- A charset of this kind: the sets it knows, by whether they take two bytes and by the letter that
names them; whether controls choose between two sets; whether there is a third one; and whether
JIS X 0208 may be announced in full. -/
structure Variant where
  sets : List ((Bool × Nat) × Set)
  hasShifts : Bool
  hasThird : Bool
  announces : Bool
  deriving DecidableEq, Repr

def jis : List ((Bool × Nat) × Set) := [((true, 0x42), .jis0208)]

def oldJis : List ((Bool × Nat) × Set) := [((true, 0x40), .jis0208), ((false, 0x4A), .roman)]

def supplement : List ((Bool × Nat) × Set) := [((true, 0x44), .jis0212)]

def korean : Variant := ⟨[((true, 0x43), .ks)], true, false, false⟩

def japanese : Variant := ⟨jis ++ oldJis, false, false, true⟩

def japanese1 : Variant := ⟨jis ++ supplement ++ oldJis, false, false, true⟩

def japanese2 : Variant :=
  ⟨jis ++ supplement ++ oldJis ++ [((true, 0x43), .ks), ((true, 0x41), .gb),
    ((false, 0x41), .latin), ((false, 0x46), .greek)], false, true, true⟩

def japanese3 : Variant :=
  ⟨jis ++ [((true, 0x4F), .jis0213 .of2000), ((true, 0x50), .jis0213Second)], false, false, true⟩

def japanese2004 : Variant :=
  ⟨jis ++ [((true, 0x51), .jis0213 .of2004), ((true, 0x50), .jis0213Second)], false, false, true⟩

def japaneseExtended : Variant :=
  ⟨jis ++ supplement ++ oldJis ++ [((false, 0x49), .kana)], false, false, true⟩

/-- The sets that are chosen, whether the second one is in force, and whether an unknown escape
sequence is being passed on. -/
structure State where
  first : Set
  second : Set
  third : Set
  isShifted : Bool
  passes : Bool
  deriving DecidableEq, Repr

def State.initial : State := ⟨.ascii, .ascii, .ascii, false, false⟩

def Set.width : Set → Nat
  | .ascii | .roman | .kana | .latin | .greek => 1
  | _ => 2

def Set.chars? (set : Set) (a b : Nat) : Option (List Char) :=
  let cell? (look : Nat → Nat → Option (List Char)) : Option (List Char) :=
    if 0x21 ≤ a ∧ 0x21 ≤ b then look (a - 0x21) (b - 0x21) else none
  let one? (look : Nat → Nat → Option Char) : Option (List Char) :=
    cell? fun row cell => (look row cell).map ([·])
  match set with
  | .ascii => some [Char.ofNat a]
  | .roman =>
    some [Char.ofNat (if a = 0x5C then 0xA5 else if a = 0x7E then 0x203E else a)]
  | .kana => (Japanese.kana? (a + 0x80)).map ([·])
  | .jis0208 => one? Japanese.jis0208?
  | .jis0212 => one? Japanese.jis0212?
  | .jis0213 edition =>
    cell? fun row cell =>
      if (row, cell) = (1, 17) then some ['~'] else Japanese.plane1? edition row cell
  | .jis0213Second => one? (Japanese.plane2? .of2004)
  | .ks => one? Korean.ks?
  | .gb => one? Chinese.gb2312Cell?
  | .latin | .greek => none

def greek? (b : Nat) : Option Nat :=
  if b < 0xA0 then some b
  else if b = 0xA1 then some 0x2018
  else if b = 0xA2 then some 0x2019
  else if b = 0xAF then some 0x2015
  else if b ∈ [0xA0, 0xA3, 0xA6, 0xA7, 0xA8, 0xA9, 0xAB, 0xAC, 0xAD, 0xB0, 0xB1, 0xB2, 0xB3, 0xB7,
      0xBB, 0xBD] then some b
  else if 0xB4 ≤ b ∧ b ≤ 0xFE ∧ b ≠ 0xD2 then some (0x2D0 + b)
  else none

def thirdStep (s : State) (b : Nat) : Stretch :=
  match s.third with
  | .latin => if b < 0x80 then .one (b + 0x80) 3 else .bad 3
  | .greek =>
    match greek? (if b < 0x80 then b + 0x80 else b - 0x80) with
    | some code => .one code 3
    | none => .bad 3
  | .ascii => if b < 0x80 then .one b 3 else .bad 3
  | _ => .bad 3

def endsSequence (b : UInt8) : Bool := (0x40 ≤ b && b ≤ 0x5A)

/-- The length of the escape sequence that a text starts with, looked for from place `i` on: zero
if it is too long, and nothing if it does not end. -/
def sequenceLength? (announces : Bool) (bs : Bytes) : Nat → Nat → Option Nat
  | 0, _ => some 0
  | fuel + 1, i =>
    if 16 ≤ i then some 0
    else
      match bs.drop i with
      | [] => none
      | b :: rest =>
        if endsSequence b then some (i + 1)
        else if announces && b == 0x26 && rest.head? == some 0x40 then
          sequenceLength? announces bs fuel (i + 3)
        else sequenceLength? announces bs fuel (i + 1)

inductive Place where
  | first
  | second
  | third
  deriving DecidableEq, Repr

def place? (hasThird : Bool) (b : Nat) : Option Place :=
  if b = 0x28 then some .first
  else if b = 0x29 then some .second
  else if hasThird ∧ b = 0x2E then some .third
  else none

def designation? (v : Variant) (sequence : List Nat) : Option (Place × Bool × Nat) :=
  match sequence with
  | [_, 0x24, name] => some (.first, true, name)
  | [_, mark, name] => (place? v.hasThird mark).map fun place => (place, false, name)
  | [_, 0x24, mark, name] => (place? false mark).map fun place => (place, true, name)
  | [_, _, _, 0x1B, 0x24, 0x42] => if v.announces then some (.first, true, 0x42) else none
  | _ => none

def Variant.set? (v : Variant) (isDouble : Bool) (name : Nat) : Option Set :=
  if isDouble = false ∧ name = 0x42 then some .ascii else v.sets.lookup (isDouble, name)

def State.choose (s : State) (set : Set) : Place → State
  | .first => { s with first := set }
  | .second => { s with second := set }
  | .third => { s with third := set }

def sequenceStep (v : Variant) (s : State) (bs : Bytes) : Stretch × State :=
  match sequenceLength? v.announces bs 16 1 with
  | none => (.cut, s)
  | some 0 => (.bad 1, s)
  | some n =>
    match designation? v ((bs.take n).map UInt8.toNat) with
    | none => (.bad n, s)
    | some (place, isDouble, name) =>
      match v.set? isDouble name with
      | none => (.bad n, s)
      | some set => (.read [] n, s.choose set place)

def charStep (s : State) (bs : Bytes) : Stretch :=
  let set := if s.isShifted then s.second else s.first
  match bs with
  | [] => .cut
  | a :: rest =>
    if rest.length + 1 < set.width then .cut
    else
      match set.chars? a.toNat ((rest.head?.map UInt8.toNat).getD 0) with
      | some cs => .read cs set.width
      | none => .bad set.width

def step (v : Variant) (s : State) (bs : Bytes) : Stretch × State :=
  match bs with
  | [] => (.cut, s)
  | a :: rest =>
    if s.passes then (.one a.toNat 1, { s with passes := !endsSequence a })
    else if a = 0x1B then
      match rest with
      | [] => (.cut, s)
      | b :: rest =>
        if b ∈ [0x28, 0x29, 0x24, 0x2E, 0x26] then sequenceStep v s bs
        else if v.hasThird ∧ b = 0x4E then
          match rest with
          | [] => (.cut, s)
          | c :: _ => (thirdStep s c.toNat, s)
        else (.one 0x1B 1, { s with passes := true })
    else if a = 0x0F ∧ v.hasShifts then (.read [] 1, { s with isShifted := false })
    else if a = 0x0E ∧ v.hasShifts then (.read [] 1, { s with isShifted := true })
    else if a = 0x0A then (.one 0x0A 1, { s with isShifted := false })
    else if a < 0x20 then (.one a.toNat 1, s)
    else if 0x80 ≤ a then (.bad 1, s)
    else (charStep s bs, s)

def decode (v : Variant) (bs : Bytes) : List Char := Stretch.decodeFrom (step v) .initial bs

end TenantGateway.Text.Shifted
