import TenantGateway.Text.Encoding

/-! # Escaped text

Text in which backslash escapes stand for characters and every other byte for the character of its
own code.
-/
namespace TenantGateway.Text.Escapes

/-- Up to `count` hexadecimal digits: the number they write if all of them are there, and what
follows the ones that are. -/
def hexRun : Nat → Nat → Bytes → Option Nat × Bytes
  | 0, value, bs => (some value, bs)
  | _ + 1, _, [] => (none, [])
  | count + 1, value, b :: rest =>
    match hexValue? (Char.ofNat b.toNat) with
    | some d => hexRun count (16 * value + d) rest
    | none => (none, b :: rest)

def hexChar (count : Nat) (bs : Bytes) : Char × Bytes :=
  match hexRun count 0 bs with
  | (some value, rest) => (if value < 0x110000 then charOf value else replacement, rest)
  | (none, rest) => (replacement, rest)

def octalRun : Nat → Nat → Bytes → Nat × Bytes
  | 0, value, bs => (value, bs)
  | _ + 1, value, [] => (value, [])
  | count + 1, value, b :: rest =>
    if 0x30 ≤ b ∧ b ≤ 0x37 then octalRun count (8 * value + (b.toNat - 0x30)) rest
    else (value, b :: rest)

/-- What follows a name between braces after `N`. No names are known. -/
def afterName : Bytes → Bytes
  | 0x7B :: rest =>
    match rest.takeWhile (· != 0x7D), rest.dropWhile (· != 0x7D) with
    | [], _ => rest
    | _, rest => rest.drop 1
  | bs => bs

def single? (b : UInt8) : Option Nat :=
  [(0x5C, 0x5C), (0x27, 0x27), (0x22, 0x22), (0x61, 7), (0x62, 8), (0x66, 12), (0x6E, 10),
    (0x72, 13), (0x74, 9), (0x76, 11)].lookup b.toNat

def escape (b : UInt8) (rest : Bytes) : List Char × Bytes :=
  let one (r : Char × Bytes) : List Char × Bytes := ([r.1], r.2)
  match single? b with
  | some code => ([Char.ofNat code], rest)
  | none =>
    if b = 0x0A then ([], rest)
    else if 0x30 ≤ b ∧ b ≤ 0x37 then
      let (value, rest) := octalRun 2 (b.toNat - 0x30) rest
      ([Char.ofNat value], rest)
    else if b = 0x78 then one (hexChar 2 rest)
    else if b = 0x75 then one (hexChar 4 rest)
    else if b = 0x55 then one (hexChar 8 rest)
    else if b = 0x4E then ([replacement], afterName rest)
    else (['\\', Char.ofNat b.toNat], rest)

/-- As `escape`, but only the escapes with four or eight hexadecimal digits count. -/
def rawEscape (b : UInt8) (rest : Bytes) : List Char × Bytes :=
  if b = 0x75 ∨ b = 0x55 then escape b rest else (['\\', Char.ofNat b.toNat], rest)

/-- The characters of at most `fuel` escapes and plain bytes; `ending` stands for a backslash at
the end. -/
def run (escape : UInt8 → Bytes → List Char × Bytes) (ending : Char) : Nat → Bytes → List Char
  | 0, _ => []
  | _ + 1, [] => []
  | _ + 1, [0x5C] => [ending]
  | fuel + 1, 0x5C :: b :: rest =>
    let (cs, rest) := escape b rest
    cs ++ run escape ending fuel rest
  | fuel + 1, b :: rest => Char.ofNat b.toNat :: run escape ending fuel rest

def decode (bs : Bytes) : List Char := run escape replacement bs.length bs

def decodeRaw (bs : Bytes) : List Char := run rawEscape '\\' bs.length bs

end TenantGateway.Text.Escapes
