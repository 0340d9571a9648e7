import TenantGateway.Text.Charset.Big5
import TenantGateway.Text.Charset.Gbk
import TenantGateway.Text.Charset.Hkscs
import TenantGateway.Text.Charset.Stretch

/-! # Chinese charsets

Charsets of the mainland, each of which adds to GB 2312, and charsets of Taiwan and Hong Kong, which
add to Big5.
-/
namespace TenantGateway.Text.Chinese

def gbkCell? (b : Nat) : Option Nat :=
  if 0x40 ≤ b ∧ b ≤ 0x7E then some (b - 0x40)
  else if 0x80 ≤ b ∧ b ≤ 0xFE then some (b - 0x41)
  else none

def inGbk? (rows : List Grid.Row) (a b : Nat) : Option Char :=
  if a < 0x81 then none else (gbkCell? b).bind fun cell => Grid.at? rows (a - 0x81) cell

def gbk? : Nat → Nat → Option Char := inGbk? Gbk.rows

/-- The cells of GB 2312 that are not empty, row by row: the first row and the last, and the first
cell and the last. -/
def gb2312Blocks : List (Nat × Nat × Nat × Nat) :=
  [(0, 0, 0, 93), (1, 1, 16, 65), (1, 1, 68, 77), (1, 1, 80, 91), (2, 2, 0, 93), (3, 3, 0, 82),
    (4, 4, 0, 85), (5, 5, 0, 23), (5, 5, 32, 55), (6, 6, 0, 32), (6, 6, 48, 80), (7, 7, 0, 25),
    (7, 7, 36, 72), (8, 8, 3, 78), (15, 53, 0, 93), (54, 54, 0, 88), (55, 86, 0, 93)]

/-- A character of GB 2312, by row and cell from zero on. Two marks differ from those of GBK. -/
def gb2312Cell? (row cell : Nat) : Option Char :=
  if gb2312Blocks.any fun (top, bottom, left, right) =>
      top ≤ row && row ≤ bottom && left ≤ cell && cell ≤ right then
    if (row, cell) = (0, 3) then some (Char.ofNat 0x30FB)
    else if (row, cell) = (0, 9) then some (Char.ofNat 0x2015)
    else gbk? (row + 0xA1) (cell + 0xA1)
  else none

def gb2312? (a b : Nat) : Option Char :=
  if 0xA1 ≤ a ∧ 0xA1 ≤ b then gb2312Cell? (a - 0xA1) (b - 0xA1) else none

/-- The private character of a code in one of the three regions that are free for use. -/
def private? (a b : Nat) : Option Nat :=
  if 0xA1 ≤ b ∧ b ≤ 0xFE ∧ 0xAA ≤ a ∧ a ≤ 0xAF then some (0xE000 + (a - 0xAA) * 94 + (b - 0xA1))
  else if 0xA1 ≤ b ∧ b ≤ 0xFE ∧ 0xF8 ≤ a ∧ a ≤ 0xFE then
    some (0xE234 + (a - 0xF8) * 94 + (b - 0xA1))
  else if b ≤ 0xA0 ∧ 0xA1 ≤ a ∧ a ≤ 0xA7 then
    (gbkCell? b).map fun cell => 0xE4C6 + (a - 0xA1) * 96 + cell
  else none

def gb18030Pair? (a b : Nat) : Option Char :=
  match gbk? a b, inGbk? Gbk.additions a b with
  | some c, _ | none, some c => some c
  | none, none => (private? a b).map Char.ofNat

/-- The character of the four-byte code of a number: one of the first plane that has no shorter
code, or one of the planes after it. -/
def fourByteChar? (n : Nat) : Option Nat :=
  if n < 39420 then
    ((Gbk.fourByteStarts.reverse.find? fun (start, _) => start ≤ n)).map fun (start, first) =>
      first + (n - start)
  else if 189000 ≤ n ∧ n - 189000 < 0x100000 then some (0x10000 + (n - 189000))
  else none

def fourBytes? (a b c d : Nat) : Option Nat :=
  if 0x81 ≤ a ∧ a ≤ 0xFE ∧ 0x81 ≤ c ∧ c ≤ 0xFE ∧ 0x30 ≤ d ∧ d ≤ 0x39 then
    fourByteChar? ((((a - 0x81) * 10 + (b - 0x30)) * 126 + (c - 0x81)) * 10 + (d - 0x30))
  else none

def gb18030Step : Bytes → Stretch
  | a :: b :: rest =>
    if a < 0x80 then .one a.toNat 1
    else if 0x30 ≤ b ∧ b ≤ 0x39 then
      match rest with
      | c :: d :: _ =>
        match fourBytes? a.toNat b.toNat c.toNat d.toNat with
        | some code => .one code 4
        | none => .bad 1
      | _ => .cut
    else .double gb18030Pair? (a :: b :: rest)
  | bs => .double gb18030Pair? bs

def big5Cell? (b : Nat) : Option Nat :=
  if 0x40 ≤ b ∧ b ≤ 0x7E then some (b - 0x40)
  else if 0xA1 ≤ b ∧ b ≤ 0xFE then some (b - 0x62)
  else none

def inBig5? (rows : List Grid.Row) (first a b : Nat) : Option Char :=
  if a < first then none else (big5Cell? b).bind fun cell => Grid.at? rows (a - first) cell

def big5? : Nat → Nat → Option Char := inBig5? Big5.rows 0xA1

def windows950? (a b : Nat) : Option Char :=
  match inBig5? Big5.windowsRows 0xA1 a b with
  | some c => some c
  | none => big5? a b

def marked : List ((Nat × Nat) × List Nat) :=
  [((0x88, 0x62), [0xCA, 0x304]), ((0x88, 0x64), [0xCA, 0x30C]), ((0x88, 0xA3), [0xEA, 0x304]),
    ((0x88, 0xA5), [0xEA, 0x30C])]

/-- Two bytes of Big5 as it is used in Hong Kong. Some rows are not those of Big5. -/
def hongKong? (a b : Nat) : Option (List Char) :=
  let own := (inBig5? Hkscs.rows 0x87 a b).map ([·])
  let isShared := a < 0xC6 ∨ 0xC8 < a ∨ (a = 0xC6 ∧ b < 0xA1)
  match if isShared then big5? a b else none, own with
  | some c, _ => some [c]
  | none, some cs => some cs
  | none, none => (marked.lookup (a, b)).map fun codes => codes.map Char.ofNat

def hongKongStep : Bytes → Stretch
  | a :: b :: rest =>
    if a < 0x80 then .one a.toNat 1
    else
      match hongKong? a.toNat b.toNat with
      | some cs => .read cs 2
      | none => .double (fun _ _ => none) (a :: b :: rest)
  | bs => .double (fun _ _ => none) bs

/-- Text in which a tilde and a brace open and close stretches of GB 2312, in bytes below 128.
`inside` says whether one is open. -/
def tildeStep (inside : Bool) : Bytes → Stretch × Bool
  | [] => (.cut, inside)
  | 0x7E :: rest =>
    match rest with
    | [] => (.cut, inside)
    | b :: _ =>
      if inside then (if b = 0x7D then (.read [] 2, false) else (.bad 1, inside))
      else if b = 0x7E then (.read ['~'] 2, inside)
      else if b = 0x7B then (.read [] 2, true)
      else if b = 0x0A then (.read [] 2, inside)
      else (.bad 1, inside)
  | a :: rest =>
    if 0x80 ≤ a then (.bad 1, inside)
    else if !inside then (.one a.toNat 1, inside)
    else
      match rest with
      | [] => (.cut, inside)
      | b :: _ =>
        let cell := if 0x21 ≤ a ∧ 0x21 ≤ b then
            gb2312Cell? (a.toNat - 0x21) (b.toNat - 0x21)
          else none
        (.ofChar? 2 cell, inside)

end TenantGateway.Text.Chinese
