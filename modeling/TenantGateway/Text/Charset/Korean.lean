import TenantGateway.Text.Charset.KsX1001
import TenantGateway.Text.Charset.Stretch

/-! # Korean charsets

Charsets around KS X 1001, whose Hangul are a selection. The others are built of letters, listed
apart, or built of the bits of a code.
-/
namespace TenantGateway.Text.Korean

/-- A character of KS X 1001, by row and cell from zero on. -/
def ks? (row cell : Nat) : Option Char := Grid.at? KsX1001.rows row cell

def high? (a b : Nat) : Option Char :=
  if 0xA1 ≤ a ∧ 0xA1 ≤ b then ks? (a - 0xA1) (b - 0xA1) else none

def syllable (first vowel last : Nat) : Nat := 0xAC00 + first * 588 + vowel * 28 + last

/-- The letters of KS X 1001 as last consonants. The eighth and those that only stand first are
none. -/
def lastOf? (b : Nat) : Option Nat :=
  [1, 2, 3, 4, 5, 6, 7, 0, 8, 9, 10, 11, 12, 13, 14, 15, 16, 17, 0, 18, 19, 20, 21, 22, 0, 23, 24,
    25, 26, 27][b - 0xA1]? |>.filter (· != 0 && 0xA1 ≤ b)

def firstOf? (b : Nat) : Option Nat :=
  ([0xA1, 0xA2, 0xA4, 0xA7, 0xA8, 0xA9, 0xB1, 0xB2, 0xB3, 0xB5, 0xB6, 0xB7, 0xB8, 0xB9, 0xBA, 0xBB,
    0xBC, 0xBD, 0xBE] : List Nat).idxOf? b

/-- A syllable that is spelled by four letters: a filler and then its own three, of which the last
may be a filler too. -/
def spelled? (bs : Bytes) : Option Nat :=
  match bs.map UInt8.toNat with
  | [0xA4, 0xD4, 0xA4, x, 0xA4, y, 0xA4, z] =>
    match firstOf? x, if z = 0xD4 then some 0 else lastOf? z with
    | some first, some last =>
      if 0xBF ≤ y ∧ y ≤ 0xD3 then some (syllable first (y - 0xBF) last) else none
    | _, _ => none
  | _ => none

def eucStep : Bytes → Stretch
  | 0xA4 :: 0xD4 :: rest =>
    if rest.length < 6 then .cut
    else
      match spelled? (0xA4 :: 0xD4 :: rest.take 6) with
      | some code => .one code 8
      | none => .bad 1
  | bs => .double high? bs

/-- The syllables that KS X 1001 leaves out, in order: those from `n` on of which `listed`, which is
in order too, has none. -/
def leftOut : Nat → Nat → List Char → List Nat
  | 0, _, _ => []
  | count + 1, n, [] => n :: leftOut count (n + 1) []
  | count + 1, n, c :: listed =>
    if c.toNat = n then leftOut count (n + 1) listed
    else n :: leftOut count (n + 1) (c :: listed)

def listedSyllables : List Char :=
  (KsX1001.rows.filter fun (row, _, _) => 15 ≤ row && row ≤ 39).flatMap fun (_, _, text) =>
    text.toList.filter (· != ' ')

def extraSyllables : Array Nat := (leftOut 11172 0xAC00 listedSyllables).toArray

def extraIndex? (a b : Nat) : Option Nat :=
  let place? :=
    if 0x41 ≤ b ∧ b ≤ 0x5A then some (b - 0x41)
    else if 0x61 ≤ b ∧ b ≤ 0x7A then some (b - 0x47)
    else if 0x81 ≤ b ∧ b ≤ 0xFE then some (b - 0x4D)
    else none
  place?.bind fun place =>
    if 0x81 ≤ a ∧ a ≤ 0xA0 then some ((a - 0x81) * 178 + place)
    else if 0xA1 ≤ a ∧ a ≤ 0xC6 ∧ place < 84 then some (5696 + (a - 0xA1) * 84 + place)
    else none

def unified? (a b : Nat) : Option Char :=
  match high? a b with
  | some c => some c
  | none => ((extraIndex? a b).bind fun i => extraSyllables[i]?).map Char.ofNat

def firstLetters : List Nat :=
  [0x31, 0x32, 0x34, 0x37, 0x38, 0x39, 0x41, 0x42, 0x43, 0x45, 0x46, 0x47, 0x48, 0x49, 0x4A, 0x4B,
    0x4C, 0x4D, 0x4E]

def lastLetters : List Nat :=
  [0x31, 0x32, 0x33, 0x34, 0x35, 0x36, 0x37, 0x39, 0x3A, 0x3B, 0x3C, 0x3D, 0x3E, 0x3F, 0x40, 0x41,
    0x42, 0x44, 0x45, 0x46, 0x47, 0x48, 0x4A, 0x4B, 0x4C, 0x4D, 0x4E]

def firstBits? (n : Nat) : Option (Option Nat) :=
  if n = 1 then some none else if 2 ≤ n ∧ n ≤ 20 then some (some (n - 2)) else none

def vowelBits? (n : Nat) : Option (Option Nat) :=
  if n = 2 then some none
  else if 3 ≤ n ∧ n ≤ 7 then some (some (n - 3))
  else if 10 ≤ n ∧ n ≤ 15 then some (some (n - 5))
  else if 18 ≤ n ∧ n ≤ 23 then some (some (n - 7))
  else if 26 ≤ n ∧ n ≤ 29 then some (some (n - 9))
  else none

def lastBits? (n : Nat) : Option (Option Nat) :=
  if n = 1 then some none
  else if 2 ≤ n ∧ n ≤ 17 then some (some (n - 2))
  else if 19 ≤ n ∧ n ≤ 29 then some (some (n - 3))
  else none

def combined? : Option Nat → Option Nat → Option Nat → Option Nat
  | none, none, none => some 0x3000
  | none, none, some last => (lastLetters[last]?).map (0x3100 + ·)
  | none, some vowel, none => some (0x314F + vowel)
  | some first, none, none => (firstLetters[first]?).map (0x3100 + ·)
  | some first, some vowel, none => some (syllable first vowel 0)
  | some first, some vowel, some last => some (syllable first vowel (last + 1))
  | _, _, _ => none

/-- A code whose bits spell a syllable, or one of KS X 1001 in a denser order. -/
def combining? (a b : Nat) : Option Char :=
  if a < 0xD8 then
    match firstBits? (a / 4 % 32), vowelBits? ((a % 4) * 8 + b / 32), lastBits? (b % 32) with
    | some first, some vowel, some last => (combined? first vowel last).map Char.ofNat
    | _, _, _ => none
  else if a = 0xDF ∨ 0xF9 < a ∨ b < 0x31 ∨ (0x80 ≤ b ∧ b < 0x91) ∨ b % 128 = 0x7F ∨
      (a = 0xDA ∧ 0xA1 ≤ b ∧ b ≤ 0xD3) then none
  else
    let half := if a < 0xE0 then 2 * a - 2 * 0xD9 else 2 * a - 0x197
    let place := if b < 0x91 then b - 0x31 else b - 0x43
    if a = 0xD8 then none else ks? (half + place / 94) (place % 94)

end TenantGateway.Text.Korean
