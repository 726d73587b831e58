import TurtleEdit.Layout.Wrap
import TurtleEdit.Number.Binary64

/-!
Tables of texts.

Every column is as wide as its widest cell, with a space on either side. Where the table would be
wider than the screen, the widest columns give way first. A cell that does not fit its column takes
several lines, and a row is as high as its highest cell. A framed table has its head row and its
title above the others.
-/

namespace TurtleEdit

/-- A column: how its cells stand, and the least cells it has between its margins. -/
structure Column where
  align : Align
  least : Nat

/-- A table, framed if it has a head row. -/
structure Table where
  title : Text
  columns : List Column
  head : Option (List Text)
  rows : List (List Text)

/-! ## Widths -/

/-- A character that ends a line where widths are measured. -/
def endsMeasuredLine (c : Char) : Bool :=
  c == '\n' || (0x1C ≤ c.toNat && c.toNat ≤ 0x1E) || c.toNat == 0x85 || c.toNat == 0x2028 ||
    c.toNat == 0x2029

/-- The cells of the widest line of a text, where the line begun takes `current` cells. -/
def widestLine (current : Nat) : Text → Nat
  | [] => current
  | c :: rest =>
    if endsMeasuredLine c then max current (widestLine 0 rest)
    else widestLine (current + charCells c) rest

/-- The sum of widths. -/
def totalWidth (widths : List Nat) : Nat := widths.foldl (· + ·) 0

/-- Takes `total` from the widths that equal `widest`, shared among the `count` of them that are
left, and at most `most` from each. -/
def shrinkWidest (widest most : Nat) (total count : Nat) : List Nat → List Nat
  | [] => []
  | width :: rest =>
    if width = widest then
      let share := min most (roundRatio total count)
      (width - share) :: shrinkWidest widest most (total - share) (count - 1) rest
    else width :: shrinkWidest widest most total count rest

/-- Shrinks the widest columns, to the next narrower ones at a time, until the widths fit `limit`.
Every round takes at least one cell, so `fuel` is the sum of the widths. -/
def collapseWidths (limit : Nat) (fuel : Nat) (widths : List Nat) : List Nat :=
  match fuel with
  | 0 => widths
  | fuel + 1 =>
    let excess := totalWidth widths - limit
    let widest := widths.foldl max 0
    let next := (widths.filter (· != widest)).foldl max 0
    if excess = 0 ∨ widest = 0 then widths
    else
      collapseWidths limit fuel
        (shrinkWidest widest (min excess (widest - next)) excess (widths.count widest) widths)

namespace Table

/-- The head row, if there is one, and the other rows. -/
def allRows (table : Table) : List (List Text) := table.head.toList ++ table.rows

/-- The cells that a column takes with its margins, at most `limit` unless it needs more. -/
def columnWidth (table : Table) (limit index : Nat) (column : Column) : Nat :=
  let widest := (table.allRows.map fun row => widestLine 0 (row.getD index [])).foldl max 0
  max (min (widest + 2) limit) (column.least + 2)

/-- The widths of columns that may each take up to a limit of their own. -/
def columnWidths (table : Table) (limits : List Nat) : List Nat :=
  (table.columns.zip limits).mapIdx fun index entry => table.columnWidth entry.2 index entry.1

/-- The cells of a frame: one at each end and one between two columns. -/
def frameWidth (table : Table) : Nat :=
  if table.head.isSome then table.columns.length + 1 else 0

/-- The widths of the columns on a screen of `width` cells. -/
def widths (table : Table) (width : Nat) : List Nat :=
  let limit := width - table.frameWidth
  let wanted := table.columnWidths (table.columns.map fun _ => limit)
  if totalWidth wanted ≤ limit then wanted
  else table.columnWidths (collapseWidths limit (totalWidth wanted) wanted)

/-! ## Rows -/

/-- The lines of a cell, each of the column's width with its margins. -/
def cellLines (column : Column) (width : Nat) (cell : Text) : List Text :=
  (wrap column.align .ellipsis (width - 2) cell).map fun line =>
    ' ' :: fitCells (width - 2) line ++ [' ']

/-- The lines of a row. Between the cells stands `divider`, and `edge` at both ends. -/
def rowLines (table : Table) (edge divider : Text) (widths : List Nat) (row : List Text) :
    List Text :=
  let columns := (table.columns.zip widths).mapIdx fun index entry =>
    (entry.2, cellLines entry.1 entry.2 (row.getD index []))
  let height := (columns.map fun column => column.2.length).foldl max 0
  (List.range height).map fun n =>
    let parts := columns.map fun column => column.2.getD n (spaces column.1)
    edge ++ List.intercalate divider parts ++ edge

/-- A line of a frame. -/
def ruleLine (first fill cross last : Char) (widths : List Nat) : Text :=
  first :: List.intercalate [cross] (widths.map fun width => List.replicate width fill) ++ [last]

/-- The lines of a table on a screen of `width` cells. -/
def lines (table : Table) (width : Nat) : List Text :=
  let widths := table.widths width
  let total := totalWidth widths + table.frameWidth
  let title := if table.title.isEmpty then [] else wrap .center .fold total table.title
  match table.head with
  | none => title ++ table.rows.flatMap (table.rowLines [] [] widths)
  | some head =>
    title ++ [ruleLine '┏' '━' '┳' '┓' widths] ++ table.rowLines ['┃'] ['┃'] widths head ++
      [ruleLine '┡' '━' '╇' '┩' widths] ++
      table.rows.flatMap (table.rowLines ['│'] ['│'] widths) ++ [ruleLine '└' '─' '┴' '┘' widths]

end Table

end TurtleEdit
