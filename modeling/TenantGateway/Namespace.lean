import TenantGateway.Fault
import TenantGateway.Text.Blank
import TenantGateway.Text.Percent

/-! # Names of one user

Names of one user among the names of all. The rules engine knows no users, so a user's streams and
rules carry the user's tag in front of their names.
-/
namespace TenantGateway.Namespace

open Text

def compact (user : String) : String := String.ofList (user.toList.filter (· != '-'))

def tag (user : String) : String := compact user ++ "_"

def qualify (user name : String) : String := tag user ++ name

/-- A name without the user's tag; a name that does not start with it stays as it is. -/
def unqualify (user name : String) : String :=
  match (tag user).toList.isPrefixOf? name.toList with
  | some rest => String.ofList rest
  | none => name

def unqualifyAll (user : String) (names : List String) : List String :=
  names.map (unqualify user)

/-- Words in which the one after the first `from` is qualified. -/
def qualifySource (user : String) : List String → Except Refusal (List String)
  | [] => .error .noSourceClause
  | word :: rest =>
    if word = "from" then
      match rest with
      | [] => .error .noSource
      | source :: rest => .ok (word :: qualify user source :: rest)
    else (qualifySource user rest).map (word :: ·)

/-- A query whose source is the user's. Its words are set one space apart. -/
def qualifyQuery (user query : String) : Except Refusal String :=
  (qualifySource user (words query)).map (" ".intercalate ·)

def declaration (name topic row format kind : String) : String :=
  "create stream " ++ name ++ " (" ++ row ++ ") WITH (DATASOURCE = \"" ++ topic ++
    "\" FORMAT = \"" ++ format ++ "\" TYPE = \"" ++ kind ++ "\")"

def streamPath (name : String) : String := "streams/" ++ Percent.encodeSegment name

end TenantGateway.Namespace
