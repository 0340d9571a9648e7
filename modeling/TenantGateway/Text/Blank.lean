/-! # Blanks and words

Blank characters, and the words that stand between them.
-/
namespace TenantGateway.Text

/-- The characters that Unicode lists as white space. -/
def isSpace (c : Char) : Bool :=
  let n := c.toNat
  (0x09 ≤ n && n ≤ 0x0D) || n == 0x20 || n == 0x85 || n == 0xA0 || n == 0x1680 ||
    (0x2000 ≤ n && n ≤ 0x200A) || n == 0x2028 || n == 0x2029 || n == 0x202F || n == 0x205F ||
    n == 0x3000

/-- White space together with the four separator controls U+001C to U+001F. -/
def isBlank (c : Char) : Bool :=
  isSpace c || (0x1C ≤ c.toNat && c.toNat ≤ 0x1F)

def strip (p : Char → Bool) (cs : List Char) : List Char :=
  ((cs.dropWhile p).reverse.dropWhile p).reverse

/-- The word that a text starts with (empty if it starts with a blank), and the words after it. -/
def splitFirst : List Char → List Char × List (List Char)
  | [] => ([], [])
  | c :: cs =>
    let (word, later) := splitFirst cs
    if isBlank c then ([], if word = [] then later else word :: later)
    else (c :: word, later)

def wordsOf (cs : List Char) : List (List Char) :=
  let (word, later) := splitFirst cs
  if word = [] then later else word :: later

def words (s : String) : List String :=
  (wordsOf s.toList).map String.ofList

def dropTrailing (c : Char) (s : String) : String :=
  String.ofList (s.toList.reverse.dropWhile (· == c)).reverse

end TenantGateway.Text
