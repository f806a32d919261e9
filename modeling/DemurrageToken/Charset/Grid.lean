import DemurrageToken.Text.Basic
/-!
Tables of characters by two numbers, such as the row and the cell in a standard or two bytes.
-/
namespace DemurrageToken.Charset

/-- Runs of neighbouring cells: the row, the first cell, and the characters from there on. -/
abbrev Grid := List (Nat × Nat × String)

namespace Grid

/-- The character of a cell. The first run that covers the cell counts. -/
def at? (g : Grid) (row cell : Nat) : Option CodePoint :=
  g.findSome? fun (r, first, characters) =>
    if r = row ∧ first ≤ cell then (characters.toList[cell - first]?).map .scalar else none

/-- The whole text of a run that begins at a cell. -/
def run? (g : Grid) (row cell : Nat) : Option Text :=
  (g.find? fun (r, first, _) => r = row && first = cell).map fun (_, _, characters) =>
    Text.ofString characters

end Grid

end DemurrageToken.Charset
