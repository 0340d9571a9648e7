/-! # Issuers

Issuers of tokens. An issuer is known by its URL, whether that is written with http or https.
-/
namespace TenantGateway.Issuer

def after? (start s : String) : Option String :=
  (start.toList.isPrefixOf? s.toList).map String.ofList

/-- The same URL with the other of the two schemes. -/
def otherScheme? (url : String) : Option String :=
  match after? "http://" url with
  | some rest => some ("https://" ++ rest)
  | none => (after? "https://" url).map ("http://" ++ ·)

def variants (issuer : String) : List String := issuer :: (otherScheme? issuer).toList

def union (a b : List String) : List String := a ++ b.filter (! a.contains ·)

end TenantGateway.Issuer
