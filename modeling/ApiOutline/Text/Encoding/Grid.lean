/-
Sets of characters in rows.

Where one octet is not enough, a character is numbered by two: a row, and a cell in it. A set is
written down as stretches of neighbouring cells. Where two sets are put one before the other, what
the first one says about a cell counts, also that it has no character: it has the replacement
character then.
-/
import ApiOutline.Text.Encoding.Wide

set_option autoImplicit false

namespace ApiOutline.Text

/-- Neighbouring cells of a row with their characters. -/
structure Stretch where
  row : Nat
  /-- The first cell. -/
  cell : Nat
  characters : String
  deriving Repr

/-- Neighbouring cells of a row whose characters are neighbours by number. -/
structure Span where
  row : Nat
  /-- The first cell. -/
  cell : Nat
  count : Nat
  /-- The number of the first character. -/
  code : Nat
  deriving Repr

/-- A set of characters. -/
abbrev Grid := List Stretch

/-- What a stretch says about a cell. -/
def Stretch.at? (s : Stretch) (row cell : Nat) : Option Char :=
  if s.row = row && s.cell ≤ cell then s.characters.toList[cell - s.cell]? else none

/-- The character of a cell. -/
def Grid.character? (g : Grid) (row cell : Nat) : Option Char :=
  (g.findSome? fun s => s.at? row cell).filter (· != replacement)

/-- The character of a cell in one of several spans. -/
def Span.character? (spans : List Span) (row cell : Nat) : Option Char :=
  spans.findSome? fun s =>
    if s.row = row && s.cell ≤ cell && cell < s.cell + s.count then
      some (Char.ofNat (s.code + (cell - s.cell)))
    else none

/-- What stands in a cell that is listed on its own. -/
def composed? (cells : List (Nat × Nat × String)) (row cell : Nat) : Option (List Char) :=
  (cells.find? fun c => c.1 = row && c.2.1 = cell).map fun c => c.2.2.toList

end ApiOutline.Text
