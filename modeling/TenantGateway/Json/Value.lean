import TenantGateway.Number.Binary64

/-! # JSON values

JSON values. Whole numbers and floating-point numbers are told apart, as their spelling does. Keys
and texts are sequences of Unicode scalar values.
-/
namespace TenantGateway

inductive Json where
  | null
  | bool (b : Bool)
  | int (n : Int)
  | number (x : Binary64)
  | str (s : String)
  | arr (items : List Json)
  | obj (fields : List (String × Json))
  deriving Repr, BEq, Inhabited

namespace Json

abbrev Fields := List (String × Json)

/-- Fields with one more. A key that is there already keeps its place and takes the new value. -/
def put (key : String) (value : Json) : Fields → Fields
  | [] => [(key, value)]
  | (k, v) :: rest => if k = key then (k, value) :: rest else (k, v) :: put key value rest

def get? (key : String) : Json → Option Json
  | .obj fields => fields.lookup key
  | _ => none

/-- Whether a value counts as true where a truth value is asked for: it is neither null nor zero
nor empty. -/
def isTruthy : Json → Bool
  | .null => false
  | .bool b => b
  | .int n => n != 0
  | .number (.finite _ mantissa _) => mantissa != 0
  | .number _ => true
  | .str s => s != ""
  | .arr items => !items.isEmpty
  | .obj fields => !fields.isEmpty

mutual

def allFinite : Json → Bool
  | .number x => x.isFinite
  | .arr items => allFiniteItems items
  | .obj fields => allFiniteFields fields
  | _ => true

def allFiniteItems : List Json → Bool
  | [] => true
  | v :: rest => allFinite v && allFiniteItems rest

def allFiniteFields : List (String × Json) → Bool
  | [] => true
  | (_, v) :: rest => allFinite v && allFiniteFields rest

end

mutual

def finiteOrNull : Json → Json
  | .number x => if x.isFinite then .number x else .null
  | .arr items => .arr (finiteOrNullItems items)
  | .obj fields => .obj (finiteOrNullFields fields)
  | v => v

def finiteOrNullItems : List Json → List Json
  | [] => []
  | v :: rest => finiteOrNull v :: finiteOrNullItems rest

def finiteOrNullFields : List (String × Json) → List (String × Json)
  | [] => []
  | (k, v) :: rest => (k, finiteOrNull v) :: finiteOrNullFields rest

end

mutual

def height : Json → Nat
  | .arr items => heightOfItems items + 1
  | .obj fields => heightOfFields fields + 1
  | _ => 1

def heightOfItems : List Json → Nat
  | [] => 0
  | v :: rest => max (height v) (heightOfItems rest)

def heightOfFields : List (String × Json) → Nat
  | [] => 0
  | (_, v) :: rest => max (height v) (heightOfFields rest)

end

end Json

end TenantGateway
