/-! # Texts in order

Lists of texts in the order of code points.
-/
namespace TenantGateway.Text

def insertSorted (s : String) : List String → List String
  | [] => [s]
  | t :: rest => if s < t then s :: t :: rest else t :: insertSorted s rest

def sorted (texts : List String) : List String := texts.foldr insertSorted []

end TenantGateway.Text
