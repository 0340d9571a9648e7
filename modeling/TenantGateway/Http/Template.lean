import TenantGateway.Text.Hex
import TenantGateway.Text.Order

/-! # Paths with parameters

Paths in which names between braces stand for parts that a request chooses. A name may be followed
by a colon and the kind of text that the parameter takes; braces around anything else are part of
the path.
-/
namespace TenantGateway.Http

open Text

inductive Kind where
  | segment
  | path
  | whole
  | decimal
  | uuid
  | unknown (name : String)
  deriving DecidableEq, Repr

inductive Part where
  | char (c : Char)
  | parameter (name : String) (kind : Kind)
  deriving DecidableEq, Repr

abbrev Template := List Part

namespace Kind

def ofName : String → Kind
  | "str" => .segment
  | "path" => .path
  | "int" => .whole
  | "float" => .decimal
  | "uuid" => .uuid
  | name => .unknown name

def afterGroups? : List Nat → List Char → Option (List Char)
  | [], cs => some cs
  | n :: more, cs =>
    let group := cs.take n
    if group.length = n ∧ group.all fun c => (hexValue? c).isSome then
      match more, cs.drop n with
      | _ :: _, '-' :: rest => afterGroups? more rest
      | _, rest => afterGroups? more rest
    else none

def down (least most : Nat) : List Nat :=
  ((List.range (most + 1 - least)).map (· + least)).reverse

/-- How many characters of a text a parameter may take, the longest first. -/
def lengths (cs : List Char) : Kind → List Nat
  | .segment => down 1 (cs.takeWhile (· != '/')).length
  | .path => down 0 (cs.takeWhile (· != '\n')).length
  | .whole => down 1 (cs.takeWhile Char.isDigit).length
  | .decimal =>
    let n := (cs.takeWhile Char.isDigit).length
    let fraction :=
      match cs.drop n with
      | '.' :: rest => (rest.takeWhile Char.isDigit).length
      | _ => 0
    if n = 0 then [] else down (n + 2) (n + 1 + fraction) ++ down 1 n
  | .uuid =>
    match afterGroups? [8, 4, 4, 4, 12] cs with
    | some rest => [cs.length - rest.length]
    | none => []
  | .unknown _ => []

end Kind

namespace Template

def isNameStart (c : Char) : Bool := c.isAlpha || c == '_'

def isNameChar (c : Char) : Bool := c.isAlphanum || c == '_'

def splitName? : List Char → Option (String × List Char)
  | c :: cs =>
    if isNameStart c then
      some (String.ofList (c :: cs.takeWhile isNameChar), cs.dropWhile isNameChar)
    else none
  | [] => none

/-- The parameter after an opening brace, and what follows its closing one. A parameter without a
kind takes a segment. -/
def parameter? (cs : List Char) : Option (Part × List Char) :=
  match splitName? cs with
  | some (name, '\x7d' :: rest) => some (.parameter name .segment, rest)
  | some (name, ':' :: rest) =>
    match splitName? rest with
    | some (kind, '\x7d' :: rest) => some (.parameter name (.ofName kind), rest)
    | _ => none
  | _ => none

def partsFrom : Nat → List Char → Template
  | _, [] => []
  | skipped + 1, _ :: cs => partsFrom skipped cs
  | 0, c :: cs =>
    match if c = '\x7b' then parameter? cs else none with
    | some (p, rest) => p :: partsFrom (cs.length - rest.length) cs
    | none => .char c :: partsFrom 0 cs

def ofPath (path : String) : Template := partsFrom 0 path.toList

def text (t : Template) : String :=
  String.ofList (t.flatMap fun
    | .char c => [c]
    | .parameter name _ => '\x7b' :: name.toList ++ ['\x7d'])

/-- The values of the parameters in a text that fits. Each takes as much as it can so that the rest
still fits. A line end after the text does not count. -/
def matchFrom? : Template → List Char → Option (List (String × String))
  | [], [] => some []
  | [], cs => if cs = ['\n'] then some [] else none
  | .char _ :: _, [] => none
  | .char d :: t, c :: cs => if c = d then matchFrom? t cs else none
  | .parameter name kind :: t, cs =>
    (kind.lengths cs).findSome? fun n =>
      (matchFrom? t (cs.drop n)).map ((name, String.ofList (cs.take n)) :: ·)

def match? (t : Template) (path : String) : Option (List (String × String)) :=
  matchFrom? t path.toList

/-- What stands between braces, at the shortest and on one line, after the first `skipped`
characters. -/
def bracedFrom : Nat → List Char → List String
  | _, [] => []
  | skipped + 1, _ :: cs => bracedFrom skipped cs
  | 0, c :: cs =>
    let inside := cs.takeWhile fun c => c != '\x7d' && c != '\n'
    if c = '\x7b' ∧ (cs.drop inside.length).head? = some '\x7d' then
      String.ofList inside :: bracedFrom (inside.length + 1) cs
    else bracedFrom 0 cs

def announced (t : Template) : List String := bracedFrom 0 t.text.toList

inductive Objection where
  | unknownKind (name : String)
  | repeated (names : List String) (path : String)
  deriving DecidableEq, Repr

def Objection.text : Objection → String
  | .unknownKind name => "Unknown path convertor '" ++ name ++ "'"
  | .repeated names path =>
    "Duplicated param name" ++ (if names.length > 1 then "s " else " ") ++
      ", ".intercalate names ++ " at path " ++ path

def names (t : Template) : List String :=
  t.filterMap fun
    | .char _ => none
    | .parameter name _ => some name

def objection? (path : String) : Option Objection :=
  let t := ofPath path
  let unknown := t.findSome? fun
    | .parameter _ (.unknown name) => some name
    | _ => none
  match unknown, t.names.eraseDups.filter fun name => t.names.count name > 1 with
  | some name, _ => some (.unknownKind name)
  | none, [] => none
  | none, repeated => some (.repeated (sorted repeated) path)

end Template

end TenantGateway.Http
