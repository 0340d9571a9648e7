import TenantGateway.Text.Charset.JisX0208
import TenantGateway.Text.Charset.JisX0212
import TenantGateway.Text.Charset.JisX0213
import TenantGateway.Text.Charset.Stretch
import TenantGateway.Text.Charset.Windows932

/-! # Japanese charsets

Charsets around JIS X 0208. Its rows come as two bytes from 0xA1 on, or folded in pairs under one
first byte.
-/
namespace TenantGateway.Text.Japanese

/-- The edition of JIS X 0213. The later one has a few characters more, and one is another. -/
inductive Edition where
  | of2000
  | of2004
  deriving DecidableEq, Repr

def jis0208? (row cell : Nat) : Option Char := Grid.at? JisX0208.rows row cell

def jis0212? (row cell : Nat) : Option Char := Grid.at? JisX0212.rows row cell

/-- Whether a cell of the first plane of JIS X 0213 is still empty in an edition. -/
def isReserved (edition : Edition) (row cell : Nat) : Bool :=
  edition == .of2000 && JisX0213.newCells.contains (row, cell)

def plane1? (edition : Edition) (row cell : Nat) : Option (List Char) :=
  if isReserved edition row cell then none
  else
    match jis0208? row cell, Grid.at? JisX0213.plane1 row cell with
    | some c, _ | none, some c => some [c]
    | none, none =>
      (JisX0213.pairs.find? fun (r, c, _) => r == row && c == cell).map fun (_, _, codes) =>
        codes.map Char.ofNat

def plane2? (edition : Edition) (row cell : Nat) : Option Char :=
  if edition = .of2000 ∧ (row, cell) = (92, 26) then some (Char.ofNat 0x9B1D)
  else Grid.at? JisX0213.plane2 row cell

def kana? (b : Nat) : Option Char :=
  if 0xA1 ≤ b ∧ b ≤ 0xDF then some (Char.ofNat (0xFEC0 + b)) else none

def highCell? (a b : Nat) : Option (Nat × Nat) :=
  if 0xA1 ≤ a ∧ 0xA1 ≤ b then some (a - 0xA1, b - 0xA1) else none

def foldedCell? (b : Nat) : Option Nat :=
  if 0x40 ≤ b ∧ b ≤ 0x7E then some (b - 0x40)
  else if 0x80 ≤ b ∧ b ≤ 0xFC then some (b - 0x41)
  else none

def foldedPair? (a : Nat) : Option Nat :=
  if 0x81 ≤ a ∧ a ≤ 0x9F then some (a - 0x81)
  else if 0xE0 ≤ a ∧ a ≤ 0xFC then some (a - 0xC1)
  else none

def folded? (a b : Nat) : Option (Nat × Nat) :=
  match foldedPair? a, foldedCell? b with
  | some pair, some cell => some (2 * pair + cell / 94, cell % 94)
  | _, _ => none

/-- Two bytes, of which the first one has been seen to start a pair. What `pair` does not know is as
wide as `badWidth` says. -/
def pairStep (bs : Bytes) (pair : Nat → Nat → Option (List Char)) (badWidth : Nat → Nat → Nat) :
    Stretch :=
  match bs with
  | a :: b :: _ =>
    match pair a.toNat b.toNat with
    | some cs => .read cs 2
    | none => .bad (badWidth a.toNat b.toNat)
  | _ => .cut

/-- The width of a pair of bytes that is no character: both for a cell that is reserved, else the
first alone. -/
def badWidth (edition : Edition) : Option (Nat × Nat) → Nat
  | some (row, cell) => if isReserved edition row cell then 2 else 1
  | none => 1

def eucWith (edition : Edition) (plain : Nat → Nat → Option (List Char))
    (marked : Nat → Nat → Option Char) : Bytes → Stretch
  | [] => .cut
  | 0x8E :: rest =>
    match rest with
    | [] => .cut
    | b :: _ => .ofChar? 2 (kana? b.toNat)
  | 0x8F :: rest =>
    match rest with
    | a :: b :: _ =>
      .ofChar? 3 ((highCell? a.toNat b.toNat).bind fun (row, cell) => marked row cell)
    | _ => .cut
  | a :: rest =>
    if a < 0x80 then .one a.toNat 1
    else
      pairStep (a :: rest) (fun a b => (highCell? a b).bind fun (row, cell) => plain row cell)
        fun a b => badWidth edition (highCell? a b)

def eucStep : Bytes → Stretch :=
  eucWith .of2004 (fun row cell => (jis0208? row cell).map ([·])) jis0212?

def eucJisStep (edition : Edition) : Bytes → Stretch :=
  eucWith edition (plane1? edition) fun row cell =>
    match plane2? edition row cell with
    | some c => some c
    | none => jis0212? row cell

def foldedWith (edition : Edition) (single : Nat → Option Nat)
    (pair : Nat → Nat → Option (List Char)) : Bytes → Stretch
  | [] => .cut
  | a :: rest =>
    match single a.toNat, kana? a.toNat with
    | some code, _ => .one code 1
    | none, some c => .read [c] 1
    | none, none =>
      if (foldedPair? a.toNat).isSome then
        pairStep (a :: rest) pair fun a b => badWidth edition (folded? a b)
      else .bad 1

def shiftJisStep : Bytes → Stretch :=
  foldedWith .of2004 (fun a => if a < 0x80 then some a else none) fun a b =>
    (folded? a b).bind fun (row, cell) => (jis0208? row cell).map ([·])

def windows? (a b : Nat) : Option Char :=
  (foldedCell? b).bind fun cell =>
    match Grid.at? Windows932.rows a cell with
    | some c => some c
    | none =>
      if 0xF0 ≤ a ∧ a ≤ 0xF9 then some (Char.ofNat (0xE000 + 188 * (a - 0xF0) + cell))
      else (folded? a b).bind fun (row, cell) => if a < 0xEB then jis0208? row cell else none

def windowsStep : Bytes → Stretch :=
  foldedWith .of2004
    (fun a =>
      if a ≤ 0x80 then some a
      else if a = 0xA0 then some 0xF8F0
      else if 0xFD ≤ a then some (0xF8F1 + (a - 0xFD))
      else none)
    fun a b => (windows? a b).map ([·])

/-- The row of the second plane that comes in a given place after the first plane. -/
def plane2Row (place : Nat) : Nat :=
  if place < 9 then [0, 7, 2, 3, 4, 11, 12, 13, 14].getD place 0 else place + 68

/-- JIS X 0213 with its rows folded. The marks of ASCII that it has twice are plain ones. -/
def shiftJis2004? (edition : Edition) (a b : Nat) : Option (List Char) :=
  (folded? a b).bind fun (row, cell) =>
    if (row, cell) = (0, 31) then some ['\\']
    else if (row, cell) = (1, 17) then some ['~']
    else if row < 94 then plane1? edition row cell
    else (plane2? edition (plane2Row (row - 94)) cell).map ([·])

def shiftJis2004Step (edition : Edition) : Bytes → Stretch :=
  foldedWith edition
    (fun a =>
      if a = 0x5C then some 0xA5 else if a = 0x7E then some 0x203E
      else if a < 0x80 then some a else none)
    (shiftJis2004? edition)

end TenantGateway.Text.Japanese
