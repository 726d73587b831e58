import TurtleEdit.Buffer.Indent

/-!
Where the lines of a buffer go when all are placed from the top, found without moving any.

Once a line is placed, its column is known, and its shape does not change. So the columns follow
from the lines alone, one after the other, whatever their indentation was.
-/

namespace TurtleEdit

/-- A line is a list item. -/
def isItem (line : Text) : Bool := lineShape line = .listItem

namespace Indenter

/-- The column of `line` below the line `above`, which stands at `column` and follows a list item
or not. -/
def below (indenter : Indenter) (afterItem : Bool) (above : Text) (column : Int) (line : Text) :
    Int :=
  if closesNode line then max 0 (column - indenter.width)
  else max 0 (indenter.under (lineShape above) afterItem column)

/-- The columns of the lines below the line `above`. -/
def planBelow (indenter : Indenter) (afterItem : Bool) (above : Text) (column : Int) :
    List Text → List Int
  | [] => []
  | line :: rest =>
    let next := indenter.below afterItem above column line
    next :: indenter.planBelow (isItem above) line next rest

/-- The columns of all lines, the first at column 0. -/
def plan (indenter : Indenter) : List Text → List Int
  | [] => []
  | first :: rest => 0 :: indenter.planBelow false first 0 rest

end Indenter

end TurtleEdit
