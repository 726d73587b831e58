import TurtleEdit.Buffer.Basic

/-!
Where the lines of a buffer belong.

A line is placed by the line above it: its present indentation, moved by one level according to its
shape. A line that closes an anonymous node goes one level left of the line above whatever that
line is. Placing a region runs from top to bottom, so each line sees the lines above it already
placed.
-/

namespace TurtleEdit

/-- Places lines with `width` columns to a level. -/
structure Indenter where
  width : Int

/-- The width of a level where none is given. -/
def defaultIndentWidth : Int := 4

/-- A column found for a line, with the step that found it, if it is worth a report. -/
structure Placement where
  columns : Int
  event : Option Event
  deriving DecidableEq, Repr

namespace Indenter

/-- The column under a line of shape `shape` that starts at column `above`. A list grows to the
right at its first item and returns to the left after its last. -/
def under (indenter : Indenter) (shape : LineShape) (afterItem : Bool) (above : Int) : Int :=
  match shape with
  | .header => above + indenter.width
  | .statementEnd => 0
  | .continuation => if afterItem then above - indenter.width else above
  | .listItem => if afterItem then above else above + indenter.width
  | .blockOpen => above + indenter.width
  | .blockClose | .other => above

/-- The line above line `n` is a list item. -/
def afterItem (buffer : Buffer) (n : Int) : Bool :=
  match buffer.line (n - 1) with
  | .ok line => lineShape line = .listItem
  | .error _ => false

/-- Where line `n` belongs. The buffer is only read. -/
def infer (indenter : Indenter) (buffer : Buffer) (n : Int) : Except Fault Placement := do
  let current ← buffer.line n
  if n = 0 then
    return ⟨0, none⟩
  else if closesNode current then
    let columns := max 0 ((← buffer.indentation (n - 1)) - indenter.width)
    return ⟨columns, some (.closedNode n columns)⟩
  else
    let shape := lineShape (← buffer.line (n - 1))
    let above ← buffer.indentation (n - 1)
    let columns := max 0 (indenter.under shape (afterItem buffer (n - 1)) above)
    return ⟨columns, some (.followed n shape above columns)⟩

/-- Puts line `n` where it belongs. A line that already measures right stays as it is. -/
def indentLine (indenter : Indenter) (buffer : Buffer) (n : Int) : Edit Int :=
  match indenter.infer buffer n with
  | .error fault => ⟨buffer, [], .error fault⟩
  | .ok placement =>
    match buffer.indentation n with
    | .error fault => ⟨buffer, placement.event.toList, .error fault⟩
    | .ok present =>
      if placement.columns = present then
        ⟨buffer, placement.event.toList, .ok placement.columns⟩
      else
        let edit := buffer.setIndentation n placement.columns
        ⟨edit.buffer, placement.event.toList ++ edit.events,
          edit.outcome.map fun _ => placement.columns⟩

/-- Puts `count` lines from line `n` on where they belong, top to bottom, up to the first fault. -/
def indentFrom (indenter : Indenter) (buffer : Buffer) (n : Nat) : Nat → Edit (List Int)
  | 0 => ⟨buffer, [], .ok []⟩
  | count + 1 =>
    let first := indenter.indentLine buffer n
    match first.outcome with
    | .error fault => ⟨first.buffer, first.events, .error fault⟩
    | .ok columns =>
      let rest := indenter.indentFrom first.buffer (n + 1) count
      ⟨rest.buffer, first.events ++ rest.events, rest.outcome.map (columns :: ·)⟩

/-- The first line of a region and the number of its lines inside a buffer of `lineCount` lines. -/
def clampLines (lineCount : Nat) (start : Int) (stop : Option Int) : Nat × Nat :=
  let stop := match stop with
    | none => lineCount
    | some stop => min stop.toNat lineCount
  (start.toNat, stop - start.toNat)

/-- Puts the lines from `start` up to `stop`, or to the end, where they belong. -/
def indentRegion (indenter : Indenter) (buffer : Buffer) (start : Int) (stop : Option Int) :
    Edit (List Int) :=
  let lines := clampLines buffer.lineCount start stop
  indenter.indentFrom buffer lines.1 lines.2

/-- Where `count` lines from line `n` on belong in the buffer as it stands, with the events up to
the first failure. -/
def inferFrom (indenter : Indenter) (buffer : Buffer) (n : Nat) : Nat → Edit (List Int)
  | 0 => ⟨buffer, [], .ok []⟩
  | count + 1 =>
    match indenter.infer buffer n with
    | .error fault => ⟨buffer, [], .error fault⟩
    | .ok placement =>
      let rest := indenter.inferFrom buffer (n + 1) count
      ⟨buffer, placement.event.toList ++ rest.events, rest.outcome.map (placement.columns :: ·)⟩

/-- Where every line belongs in the buffer as it stands. -/
def inferAll (indenter : Indenter) (buffer : Buffer) : Edit (List Int) :=
  indenter.inferFrom buffer 0 buffer.lineCount

/-- One line of description, if the width of a level is short enough to be written. -/
def describe? (indenter : Indenter) : Option String := do
  return "Indenter(indent_width=" ++ (← digits? indenter.width) ++ ")"

end Indenter

end TurtleEdit
