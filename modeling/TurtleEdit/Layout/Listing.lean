import TurtleEdit.Layout.Cells
import TurtleEdit.Layout.Lexeme

/-!
Numbered listings of a text.

Each line stands after its number in lines of the screen's width: filled with spaces, or cut. Tabs
run to stops of four characters. A byte order mark at the start of the text is not shown, and a line
feed at its end starts one more, empty line. A line is cut within the lexeme that reaches the edge.
-/

namespace TurtleEdit

/-- A text without a byte order mark at its start. -/
def dropByteOrderMark : Text → Text
  | c :: rest => if c.toNat = 0xFEFF then rest else c :: rest
  | [] => []

/-- A number set against the right end of `width` characters. -/
def rightNumber (width n : Nat) : Text :=
  let digits := Nat.toDigits 10 n
  spaces (width - digits.length) ++ digits

/-- The pieces of each line, from pieces that may hold line feeds. -/
def lineUp : List Text → List (List Text)
  | [] => [[]]
  | piece :: rest =>
    match lineUp rest with
    | line :: lines =>
      let parts := splitLines piece
      parts.dropLast.map ([·]) ++ ((parts.getLast?.getD []) :: line) :: lines
    | [] => []

/-- Pieces cut to `width` cells: the piece that reaches them is fitted, and the later ones go. -/
def cutPieces (width : Nat) : List Text → Text
  | [] => []
  | piece :: rest =>
    if cells piece < width then piece ++ cutPieces (width - cells piece) rest
    else fitCells width piece

/-- A line of pieces in `width` cells: filled with spaces, or cut. -/
def fitPieces (width : Nat) (pieces : List Text) : Text :=
  if cells pieces.flatten ≤ width then fitCells width pieces.flatten else cutPieces width pieces

/-- The lines of a text's listing on a screen of `width` cells. -/
def listing (width : Nat) (text : Text) : List Text :=
  let lines := lineUp (lexemes (dropByteOrderMark (expandTabs 4 (fun _ => 1) 0 text)))
  let margin := (Nat.toDigits 10 lines.length).length + 2
  lines.mapIdx fun n line =>
    rightNumber margin (n + 1) ++ [' '] ++ fitPieces (width - margin - 1) (line.map showable)

end TurtleEdit
