/-! # Grids of characters

Characters by row and cell, as charsets with two bytes a character list them.
-/
namespace TenantGateway.Text.Grid

/-- Characters side by side in one row: its number, the first cell, and the characters from there
on. A space is an empty cell. -/
abbrev Row := Nat × Nat × String

def at? (rows : List Row) (row cell : Nat) : Option Char :=
  match rows.find? fun (r, first, text) =>
      r == row && first ≤ cell && cell < first + text.length with
  | some (_, first, text) => (text.toList[cell - first]?).filter (· != ' ')
  | none => none

end TenantGateway.Text.Grid
