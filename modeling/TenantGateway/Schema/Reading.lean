import TenantGateway.Schema.Problem
import TenantGateway.Number.Numeral

/-! # Readers

Readers from JSON values to what they stand for. A reader that reads several parts reports the
problems of all of them, in the order of the parts.
-/
namespace TenantGateway.Schema

inductive Reading (α : Type) where
  | ok (a : α)
  | error (problems : List Problem)
  deriving Repr

namespace Reading

variable {α β : Type}

def map (f : α → β) : Reading α → Reading β
  | .ok a => .ok (f a)
  | .error ps => .error ps

def under (step : Step) : Reading α → Reading α
  | .ok a => .ok a
  | .error ps => .error (ps.map (Problem.under step))

/-- A function read before its argument; the problems of both count. -/
def ap : Reading (α → β) → Reading α → Reading β
  | .ok f, .ok a => .ok (f a)
  | .ok _, .error ps => .error ps
  | .error ps, .ok _ => .error ps
  | .error ps, .error qs => .error (ps ++ qs)

end Reading

def complain {α : Type} (c : Complaint) (input : Json) : Reading α := .error [⟨c, [], input⟩]

def text : Json → Reading String
  | .str s => .ok s
  | v => complain .text v

def textOrNull : Json → Reading (Option String)
  | .null => .ok none
  | .str s => .ok (some s)
  | v => complain .text v

def nonemptyText : Json → Reading String
  | .str s => if s = "" then complain (.tooShort 1) (.str s) else .ok s
  | v => complain .text v

def fitsWord (n : Int) : Bool := -9223372036854775808 ≤ n && n < 9223372036854775808

/-- A whole number, also one that a boolean, a floating-point number without fraction or a text
stands for. A floating-point number has to lie between the bounds of 64 bits. -/
def whole : Json → Reading Int
  | .int n => .ok n
  | .bool b => .ok (if b then 1 else 0)
  | .number x =>
    match x.truncate? with
    | none => complain .notFinite (.number x)
    | some n =>
      if x.hasFraction then complain .fraction (.number x)
      else if -9223372036854775808 < n ∧ n < 9223372036854775808 then .ok n
      else complain .tooLarge (.number x)
  | .str s =>
    if Numeral.exceeds s then complain .tooLarge (.str s)
    else
      match Numeral.integral? s with
      | some n => .ok n
      | none => complain .wholeText (.str s)
  | v => complain .whole v

def real : Json → Reading Binary64
  | .number x => .ok x
  | .int n =>
    let x := Binary64.ofInt n
    if x.isFinite then .ok x else complain .real (.int n)
  | .bool b => .ok (.ofInt (if b then 1 else 0))
  | .str s =>
    match Numeral.real? s with
    | some x => .ok x
    | none => complain .realText (.str s)
  | v => complain .real v

def truth : Json → Reading Bool
  | .bool b => .ok b
  | .int n =>
    if n = 0 then .ok false else if n = 1 then .ok true
    else complain (if fitsWord n then .truthText else .truth) (.int n)
  | .number x =>
    match whole (.number x) with
    | .ok n =>
      if n = 0 then .ok false else if n = 1 then .ok true else complain .truthText (.number x)
    | .error _ => complain .truth (.number x)
  | .str s =>
    let word := s.toLower
    if word ∈ ["0", "off", "f", "false", "n", "no"] then .ok false
    else if word ∈ ["1", "on", "t", "true", "y", "yes"] then .ok true
    else complain .truthText (.str s)
  | v => complain .truth v

def itemsFrom {α : Type} (read : Json → Reading α) (i : Nat) : List Json → Reading (List α)
  | [] => .ok []
  | v :: rest =>
    ((Reading.under (.index i) (read v)).map List.cons).ap (itemsFrom read (i + 1) rest)

def list {α : Type} (read : Json → Reading α) : Json → Reading (List α)
  | .arr items => itemsFrom read 0 items
  | v => complain .list v

def dictionary : Json → Reading Json.Fields
  | .obj fields => .ok fields
  | v => complain .dictionary v

/-- Who hands a value in: the program itself, or a caller in the body of a request. -/
inductive Source where
  | program
  | caller
  deriving DecidableEq, Repr

def record {α : Type} (source : Source) (model : String) (read : Json.Fields → Reading α) :
    Json → Reading α
  | .obj fields => read fields
  | v => complain (match source with | .program => .record model | .caller => .body) v

/-- A field's key, and a second key that is looked up where the first is absent. -/
structure Key where
  name : String
  other : Option String

def Key.find? (k : Key) (fields : Json.Fields) : Option (String × Json) :=
  match fields.lookup k.name with
  | some v => some (k.name, v)
  | none => k.other.bind fun name => (fields.lookup name).map fun v => (name, v)

def required {α : Type} (k : Key) (read : Json → Reading α) (fields : Json.Fields) : Reading α :=
  match k.find? fields with
  | some (name, v) => (read v).under (.key name)
  | none => .error [⟨.missing, [.key k.name], .obj fields⟩]

def optional {α : Type} (k : Key) (read : Json → Reading α) (absent : α) (fields : Json.Fields) :
    Reading α :=
  match k.find? fields with
  | some (name, v) => (read v).under (.key name)
  | none => .ok absent

end TenantGateway.Schema
