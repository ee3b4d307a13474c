/-!
# Planes of characters

A plane has rows of cells, and most cells hold a character. In the text of a row a
space stands where a cell is empty, and a row may end early.
-/

set_option autoImplicit false

namespace FeedIngest.Text

/-- A plane: its rows that hold characters. -/
abbrev Plane := Array (Nat × Array Char)

namespace Plane

def ofRows (rows : List (Nat × String)) : Plane :=
  (rows.map fun (row, cells) => (row, cells.toList.toArray)).toArray

def char? (p : Plane) (row cell : Nat) : Option Char :=
  match p.find? (·.1 == row) with
  | some (_, cells) =>
    match cells[cell]? with
    | some c => if c = ' ' then none else some c
    | none => none
  | none => none

end Plane

end FeedIngest.Text
