import TenantGateway.Json.Value
import TenantGateway.Number.Shortest
import TenantGateway.Text.Quoted

/-! # Values in messages

How a value reads in a message: a text as it is, and anything else spelled out, with texts inside it
quoted.
-/
namespace TenantGateway.Json

mutual

def spelled : Json → String
  | .null => "None"
  | .bool b => if b then "True" else "False"
  | .int n => toString n
  | .number x => x.text
  | .str s => Text.quoted s
  | .arr items => "[" ++ ", ".intercalate (spelledItems items) ++ "]"
  | .obj fields => "\x7b" ++ ", ".intercalate (spelledFields fields) ++ "\x7d"

def spelledItems : List Json → List String
  | [] => []
  | v :: rest => spelled v :: spelledItems rest

def spelledFields : List (String × Json) → List String
  | [] => []
  | (k, v) :: rest => (Text.quoted k ++ ": " ++ spelled v) :: spelledFields rest

end

def display : Json → String
  | .str s => s
  | v => spelled v

/-- Several values, which are shown between parentheses; or one, or none. -/
def displayAll : List Json → String
  | [] => ""
  | [v] => display v
  | vs => "(" ++ ", ".intercalate (spelledItems vs) ++ ")"

end TenantGateway.Json
