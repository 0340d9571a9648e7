import TenantGateway.Text.Hex

/-! # Network addresses in text

Addresses of hosts as they are written: four numbers between points (IPv4), or eight groups of
hexadecimal digits between colons (IPv6), a run of which may be left out.
-/
namespace TenantGateway.Text.Address

def splitAt (mark : Char) : List Char → List (List Char)
  | [] => [[]]
  | c :: cs =>
    if c = mark then [] :: splitAt mark cs
    else
      match splitAt mark cs with
      | [] => [[c]]
      | piece :: later => (c :: piece) :: later

def isByteText (cs : List Char) : Bool :=
  cs ≠ [] && cs.length ≤ 3 && cs.all Char.isDigit && (cs.head? != some '0' || cs.length == 1) &&
    cs.foldl (fun n c => 10 * n + (c.toNat - 48)) 0 < 256

def isIPv4 (cs : List Char) : Bool :=
  let parts := splitAt '.' cs
  parts.length == 4 && parts.all isByteText

def isGroup (cs : List Char) : Bool :=
  cs ≠ [] && cs.length ≤ 4 && cs.all fun c => (hexValue? c).isSome

/-- How many groups there are between colons. With `tail`, the last two may be written as an IPv4
address. -/
def groupCount? (tail : Bool) : List (List Char) → Option Nat
  | [] => some 0
  | [last] =>
    if isGroup last then some 1 else if tail && isIPv4 last then some 2 else none
  | g :: rest => if isGroup g then (groupCount? tail rest).map (· + 1) else none

def splitGap? : List Char → Option (List Char × List Char)
  | ':' :: ':' :: rest => some ([], rest)
  | c :: rest => (splitGap? rest).map fun (before, after) => (c :: before, after)
  | [] => none

def groupsOf (cs : List Char) : List (List Char) := if cs = [] then [] else splitAt ':' cs

/-- Eight groups, or fewer around a double colon, which stands for at least one. -/
def isIPv6 (cs : List Char) : Bool :=
  match splitGap? cs with
  | none => groupCount? true (groupsOf cs) == some 8
  | some (before, after) =>
    match groupCount? false (groupsOf before), groupCount? true (groupsOf after) with
    | some m, some n => m + n < 8
    | _, _ => false

def isZonedIPv6 (cs : List Char) : Bool :=
  let (address, zone) := (cs.takeWhile (· != '%'), cs.dropWhile (· != '%'))
  isIPv6 address && (zone = [] || (zone.length > 1 && !(zone.drop 1).contains '%'))

/-- An address of a kind still to come: a version in hexadecimal digits after `v`, a point, and
then at least one character. -/
def isFuture (allowed : Char → Bool) : List Char → Bool
  | 'v' :: rest =>
    let version := rest.takeWhile fun c => (hexValue? c).isSome
    match rest.dropWhile fun c => (hexValue? c).isSome with
    | '.' :: address => version ≠ [] && address ≠ [] && address.all allowed
    | _ => false
  | _ => false

end TenantGateway.Text.Address
