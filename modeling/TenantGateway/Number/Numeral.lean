import TenantGateway.Number.Binary64
import TenantGateway.Text.Blank

/-! # Numerals

Numbers written in text: what a claim, a setting or a field of a request may hold where a number
is wanted.
-/
namespace TenantGateway.Numeral

open Text

def digit? (c : Char) : Option Nat :=
  if '0' ≤ c ∧ c ≤ '9' then some (c.toNat - 48) else none

def isDigit (c : Char) : Bool := (digit? c).isSome

/-- The zeros of the scripts that write numbers in places of ten. The nine other digits of a script
follow its zero. -/
def zeros : List Nat :=
  [0x30, 0x660, 0x6F0, 0x7C0, 0x966, 0x9E6, 0xA66, 0xAE6, 0xB66, 0xBE6, 0xC66, 0xCE6, 0xD66, 0xDE6,
    0xE50, 0xED0, 0xF20, 0x1040, 0x1090, 0x17E0, 0x1810, 0x1946, 0x19D0, 0x1A80, 0x1A90, 0x1B50,
    0x1BB0, 0x1C40, 0x1C50, 0xA620, 0xA8D0, 0xA900, 0xA9D0, 0xA9F0, 0xAA50, 0xABF0, 0xFF10,
    0x104A0, 0x10D30, 0x11066, 0x110F0, 0x11136, 0x111D0, 0x112F0, 0x11450, 0x114D0, 0x11650,
    0x116C0, 0x11730, 0x118E0, 0x11950, 0x11C50, 0x11D50, 0x11DA0, 0x16A60, 0x16AC0, 0x16B50,
    0x1D7CE, 0x1D7D8, 0x1D7E2, 0x1D7EC, 0x1D7F6, 0x1E140, 0x1E2F0, 0x1E950, 0x1FBF0]

def scriptDigit? (c : Char) : Option Nat :=
  (zeros.find? fun z => z ≤ c.toNat && c.toNat < z + 10).map (c.toNat - ·)

def digitsAfter (n : Nat) : List Char → Option Nat
  | [] => some n
  | '_' :: c :: cs => (scriptDigit? c).bind fun d => digitsAfter (10 * n + d) cs
  | c :: cs => (scriptDigit? c).bind fun d => digitsAfter (10 * n + d) cs

def digits? : List Char → Option Nat
  | [] => none
  | c :: cs => (scriptDigit? c).bind fun d => digitsAfter d cs

def splitSign : List Char → Bool × List Char
  | '-' :: cs => (true, cs)
  | '+' :: cs => (false, cs)
  | cs => (false, cs)

def signed (negative : Bool) (n : Nat) : Int := if negative then -n else n

def digitLimit : Nat := 4300

def tooLong (count : Nat) : String :=
  "Exceeds the limit (" ++ toString digitLimit ++
    " digits) for integer string conversion: value has " ++ toString count ++
    " digits; use sys.set_int_max_str_digits() to increase the limit"

def integer? (s : String) : Option Int :=
  let (negative, cs) := splitSign (strip isSpace s.toList)
  if digitLimit < (cs.filter (· != '_')).length then none else (digits? cs).map (signed negative)

def valueOf (cs : List Char) : Nat := cs.foldl (fun n c => 10 * n + (c.toNat - 48)) 0

def spacedOut : List Char → Bool
  | [] => true
  | ['_'] => false
  | '_' :: '_' :: _ => false
  | _ :: cs => spacedOut cs

def withoutUnderscores (cs : List Char) : Option (List Char) :=
  if cs.head? ≠ some '_' ∧ spacedOut cs then some (cs.filter (· != '_')) else none

/-- What counts of a numeral after zeros; `last` is the character before. Zeros and underscores go,
but for the last one before a point or the end. A minus sign may follow. -/
def afterZeros (last : Char) : List Char → Option (List Char)
  | [] => some [last]
  | c :: cs =>
    if c = '0' ∨ c = '_' then afterZeros c cs
    else if isDigit c ∨ c = '-' then some (c :: cs)
    else if c = '.' then some (last :: c :: cs)
    else none

def significant? : List Char → Option (List Char)
  | [] => none
  | c :: cs =>
    if c = '0' then afterZeros '0' cs else if isDigit c then some (c :: cs) else none

def withoutZeroFraction (cs : List Char) : Option (List Char) :=
  match cs.dropWhile (· != '.') with
  | [] => some cs
  | _ :: fraction =>
    if fraction ≠ [] ∧ fraction.all (· == '0') then some (cs.takeWhile (· != '.')) else none

def canonical? (cs : List Char) : Option Nat :=
  if cs = [] ∨ !cs.all isDigit ∨ (cs.head? = some '0' ∧ cs ≠ ['0']) then none
  else some (valueOf cs)

/-- The digits of a numeral that has no sign in front. A minus sign after zeros is left. -/
def bare? (cs : List Char) : Option (List Char) :=
  ((significant? cs).bind withoutZeroFraction).bind withoutUnderscores

/-- Whether a whole number is negative, and its digits, between white space. Zeros in front may be
divided in any way, and a minus sign may stand after them instead of before; other digits may be
divided by single underscores, and may have a fraction of zeros. -/
def parts? (s : String) : Option (Bool × List Char) :=
  match strip isSpace s.toList with
  | '-' :: cs => (bare? cs).map (true, ·)
  | cs =>
    let cs := match cs with | '+' :: rest => rest | cs => cs
    (bare? cs).map fun ds =>
      match ds with
      | '-' :: ds => (true, ds)
      | ds => (false, ds)

def integral? (s : String) : Option Int :=
  (parts? s).bind fun (negative, ds) => (canonical? ds).map (signed negative)

/-- Whether digits without a zero in front are more than are read. A minus sign counts as one. -/
def isOverlong (negative : Bool) (cs : List Char) : Bool :=
  cs.head? != some '0' &&
    digitLimit < (cs.takeWhile isDigit).length + if negative then 1 else 0

/-- Whether a text starts with too long a number, as it is or as one between white space. -/
def exceeds (s : String) : Bool :=
  (match s.toList with
    | '-' :: cs => isOverlong true cs
    | cs => isOverlong false cs) ||
  (parts? s).any fun (negative, ds) => isOverlong negative ds

def exponent? (cs : List Char) : Option Int :=
  let (negative, cs) := splitSign cs
  if cs ≠ [] ∧ cs.all isDigit then some (signed negative (valueOf cs)) else none

def decimal? (negative : Bool) (cs : List Char) : Option Binary64 :=
  let whole := cs.takeWhile isDigit
  let rest := cs.dropWhile isDigit
  let (fraction, rest) :=
    match rest with
    | '.' :: more => (more.takeWhile isDigit, more.dropWhile isDigit)
    | _ => ([], rest)
  let number (power : Int) : Option Binary64 :=
    if whole = [] ∧ fraction = [] then none
    else some (.ofDecimal negative (valueOf (whole ++ fraction)) (power - fraction.length))
  match rest with
  | [] => number 0
  | c :: more => if c = 'e' ∨ c = 'E' then (exponent? more).bind number else none

def plain? (cs : List Char) : Option Binary64 :=
  let (negative, cs) := splitSign cs
  let word := String.ofList (cs.map Char.toLower)
  if word = "inf" ∨ word = "infinity" then some (.infinite negative)
  else if word = "nan" then some .nan
  else decimal? negative cs

/-- A number between white space; underscores may divide its characters if nothing stands around
it. -/
def real? (s : String) : Option Binary64 :=
  match plain? (strip isSpace s.toList) with
  | some x => some x
  | none =>
    (withoutUnderscores s.toList).bind plain?

end TenantGateway.Numeral
