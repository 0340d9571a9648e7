import TenantGateway.Json.Value
import TenantGateway.Number.Numeral
import TenantGateway.Text.Encoding
import TenantGateway.Text.Hex

/-! # Reading JSON

Reading JSON text. Besides the standard's values, `NaN`, `Infinity` and `-Infinity` are numbers; of
two fields with one key the later counts; control characters may not stand in a string; containers
nest only so deep, and whole numbers have only so many digits. A failure names what was expected and
the place, counted in characters, or the container that is too deep, or the number of digits.

Two `\u` escapes that are the halves of a surrogate pair are one character. One half on its own is
no part of any text; the replacement character is read for it.
-/
namespace TenantGateway.Json

open Text

inductive SyntaxCause where
  | value
  | propertyName
  | colon
  | comma
  | extra
  | unterminated
  | control
  | escape
  | unicodeEscape
  | mark
  deriving DecidableEq, Repr

def SyntaxCause.text : SyntaxCause → String
  | .value => "Expecting value"
  | .propertyName => "Expecting property name enclosed in double quotes"
  | .colon => "Expecting ':' delimiter"
  | .comma => "Expecting ',' delimiter"
  | .extra => "Extra data"
  | .unterminated => "Unterminated string starting at"
  | .control => "Invalid control character at"
  | .escape => "Invalid \\escape"
  | .unicodeEscape => "Invalid \\uXXXX escape"
  | .mark => "Unexpected UTF-8 BOM (decode using utf-8-sig)"

/-- Where and why a text is no JSON. Offsets count from zero, lines and columns from one. -/
structure SyntaxFault where
  cause : SyntaxCause
  offset : Nat
  line : Nat
  column : Nat
  deriving DecidableEq, Repr

def SyntaxFault.text (f : SyntaxFault) : String :=
  f.cause.text ++ ": line " ++ toString f.line ++ " column " ++ toString f.column ++
    " (char " ++ toString f.offset ++ ")"

def SyntaxFault.at (cs : List Char) (cause : SyntaxCause) (offset : Nat) : SyntaxFault :=
  let before := cs.take offset
  { cause, offset
    line := before.count '\n' + 1
    column := (before.reverse.takeWhile (· != '\n')).length + 1 }

inductive Container where
  | object
  | array
  deriving DecidableEq, Repr

/-- Why a text is not read as JSON: it is none, a container in it is too deep, or a whole number in
it has too many digits. -/
inductive ParseFault where
  | grammar (f : SyntaxFault)
  | depth (c : Container)
  | digits (count : Nat)
  deriving DecidableEq, Repr

def Container.tooDeep (c : Container) : String :=
  "maximum recursion depth exceeded while decoding a JSON " ++
    (match c with | .object => "object" | .array => "array") ++ " from a unicode string"

def ParseFault.text : ParseFault → String
  | .grammar f => f.text
  | .depth c => c.tooDeep
  | .digits count => Numeral.tooLong count

def depthLimit : Nat := 990

/-- A failure; one of the grammar is placed by how many characters are left there. -/
inductive Slip where
  | at (cause : SyntaxCause) (left : Nat)
  | deep (c : Container)
  | long (count : Nat)

abbrev Reads (α : Type) := Except Slip (α × List Char)

def isGap (c : Char) : Bool := c == ' ' || c == '\t' || c == '\n' || c == '\r'

def skipGap (cs : List Char) : List Char := cs.dropWhile isGap

def escaped? : Char → Option Char
  | '"' => some '"'
  | '\\' => some '\\'
  | '/' => some '/'
  | 'b' => some (Char.ofNat 8)
  | 'f' => some (Char.ofNat 12)
  | 'n' => some '\n'
  | 'r' => some '\r'
  | 't' => some '\t'
  | _ => none

def hex4? (a b c d : Char) : Option Nat :=
  match hexValue? a, hexValue? b, hexValue? c, hexValue? d with
  | some a, some b, some c, some d => some (((a * 16 + b) * 16 + c) * 16 + d)
  | _, _, _, _ => none

def within (c : Char) (r : Reads (List Char)) : Reads (List Char) :=
  r.map fun (cs, rest) => (c :: cs, rest)

/-- A string from one of its characters on; `all` is what follows its opening quote. A `\u` escape
needs a character after its four digits. -/
def string (all : List Char) : List Char → Reads (List Char)
  | [] => .error (.at .unterminated (all.length + 1))
  | '"' :: rest => .ok ([], rest)
  | ['\\'] => .error (.at .unterminated (all.length + 1))
  | '\\' :: 'u' :: a :: b :: c :: d :: rest =>
    match rest, hex4? a b c d with
    | [], _ | _, none => .error (.at .unicodeEscape (rest.length + 5))
    | '\\' :: 'u' :: e :: f :: g :: h :: more, some n =>
      if isHighHalf n && more ≠ [] then
        match hex4? e f g h with
        | none => .error (.at .unicodeEscape (more.length + 5))
        | some m =>
          if isLowHalf m then within (joinHalves n m) (string all more)
          else within replacement (string all ('\\' :: 'u' :: e :: f :: g :: h :: more))
      else within (charOf n) (string all ('\\' :: 'u' :: e :: f :: g :: h :: more))
    | rest, some n => within (charOf n) (string all rest)
  | '\\' :: 'u' :: rest => .error (.at .unicodeEscape (rest.length + 1))
  | '\\' :: e :: rest =>
    match escaped? e with
    | some c => within c (string all rest)
    | none => .error (.at .escape (rest.length + 2))
  | c :: rest =>
    if c.toNat < 0x20 then .error (.at .control (rest.length + 1))
    else within c (string all rest)

def fractionOf : List Char → List Char × List Char
  | '.' :: c :: rest =>
    if Numeral.isDigit c then ((c :: rest).takeWhile Numeral.isDigit,
      (c :: rest).dropWhile Numeral.isDigit)
    else ([], '.' :: c :: rest)
  | cs => ([], cs)

def exponentOf (cs : List Char) : Option Int × List Char :=
  match cs with
  | c :: rest =>
    if c = 'e' ∨ c = 'E' then
      let (negative, ds) := Numeral.splitSign rest
      match ds.takeWhile Numeral.isDigit with
      | [] => (none, cs)
      | digits =>
        (some (Numeral.signed negative (Numeral.valueOf digits)), ds.dropWhile Numeral.isDigit)
    else (none, cs)
  | [] => (none, [])

def wholeOf : List Char → List Char × List Char
  | '0' :: rest => (['0'], rest)
  | cs => (cs.takeWhile Numeral.isDigit, cs.dropWhile Numeral.isDigit)

def numeral (cs : List Char) : Reads Json :=
  let (negative, ds) :=
    match cs with
    | '-' :: rest => (true, rest)
    | _ => (false, cs)
  match wholeOf ds with
  | ([], _) => .error (.at .value cs.length)
  | (whole, rest) =>
    let (fraction, rest) := fractionOf rest
    let (exponent, rest) := exponentOf rest
    if fraction = [] ∧ exponent = none then
      if Numeral.digitLimit < whole.length then .error (.long whole.length)
      else .ok (.int (Numeral.signed negative (Numeral.valueOf whole)), rest)
    else
      .ok (.number (.ofDecimal negative (Numeral.valueOf (whole ++ fraction))
        (exponent.getD 0 - fraction.length)), rest)

mutual

/-- The value that a text starts with, and what follows it. `room` containers may stand in one
another. -/
def value : Nat → Nat → List Char → Reads Json
  | 0, _, cs => .error (.at .value cs.length)
  | fuel + 1, room, cs =>
    match cs with
    | '"' :: rest =>
      (string rest rest).map fun (s, rest) => (.str (String.ofList s), rest)
    | '\x7b' :: rest =>
      match room, skipGap rest with
      | 0, _ => .error (.deep .object)
      | _, '\x7d' :: rest => .ok (.obj [], rest)
      | room + 1, rest => members fuel room [] rest
    | '[' :: rest =>
      match room, skipGap rest with
      | 0, _ => .error (.deep .array)
      | _, ']' :: rest => .ok (.arr [], rest)
      | room + 1, rest => (elements fuel room rest).map fun (vs, rest) => (.arr vs, rest)
    | 'n' :: 'u' :: 'l' :: 'l' :: rest => .ok (.null, rest)
    | 't' :: 'r' :: 'u' :: 'e' :: rest => .ok (.bool true, rest)
    | 'f' :: 'a' :: 'l' :: 's' :: 'e' :: rest => .ok (.bool false, rest)
    | 'N' :: 'a' :: 'N' :: rest => .ok (.number .nan, rest)
    | 'I' :: 'n' :: 'f' :: 'i' :: 'n' :: 'i' :: 't' :: 'y' :: rest =>
      .ok (.number (.infinite false), rest)
    | '-' :: 'I' :: 'n' :: 'f' :: 'i' :: 'n' :: 'i' :: 't' :: 'y' :: rest =>
      .ok (.number (.infinite true), rest)
    | cs => numeral cs

def elements : Nat → Nat → List Char → Except Slip (List Json × List Char)
  | 0, _, cs => .error (.at .value cs.length)
  | fuel + 1, room, cs => do
    let (v, rest) ← value fuel room cs
    match skipGap rest with
    | ']' :: rest => return ([v], rest)
    | ',' :: rest =>
      let (vs, rest) ← elements fuel room (skipGap rest)
      return (v :: vs, rest)
    | rest => .error (.at .comma rest.length)

def members : Nat → Nat → Fields → List Char → Except Slip (Json × List Char)
  | 0, _, _, cs => .error (.at .value cs.length)
  | fuel + 1, room, fields, cs =>
    match cs with
    | '"' :: rest => do
      let (key, rest) ← string rest rest
      match skipGap rest with
      | ':' :: rest =>
        let (v, rest) ← value fuel room (skipGap rest)
        let fields := put (String.ofList key) v fields
        match skipGap rest with
        | '\x7d' :: rest => return (.obj fields, rest)
        | ',' :: rest => members fuel room fields (skipGap rest)
        | rest => .error (.at .comma rest.length)
      | rest => .error (.at .colon rest.length)
    | cs => .error (.at .propertyName cs.length)

end

def parseChars (cs : List Char) : Except ParseFault Json :=
  let place (cause : SyntaxCause) (left : Nat) : ParseFault :=
    .grammar (.at cs cause (cs.length - left))
  match value (2 * cs.length + 2) depthLimit (skipGap cs) with
  | .error (.at cause left) => .error (place cause left)
  | .error (.deep c) => .error (.depth c)
  | .error (.long count) => .error (.digits count)
  | .ok (v, rest) =>
    match skipGap rest with
    | [] => .ok v
    | rest => .error (place .extra rest.length)

/-- A text is refused when it starts with a byte order mark. -/
def parse (s : String) : Except ParseFault Json :=
  match s.toList with
  | c :: cs =>
    if c.toNat = 0xFEFF then .error (.grammar (.at (c :: cs) .mark 0)) else parseChars (c :: cs)
  | [] => parseChars []

inductive Unreadable where
  | bytes (u : Undecodable)
  | text (f : ParseFault)
  deriving DecidableEq, Repr

def Unreadable.message : Unreadable → String
  | .bytes u => u.text
  | .text f => f.text

def parseBytes (bs : Bytes) : Except Unreadable Json :=
  match decodeJsonText bs with
  | .error u => .error (.bytes u)
  | .ok cs => (parseChars cs).mapError .text

end TenantGateway.Json
