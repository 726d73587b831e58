import TurtleEdit.Text.Blank
import TurtleEdit.Journal

/-!
Buffers of lines, their indentation and the faults of asking beyond them.

A buffer keeps the lines of a text and whether the text ended with a line feed, so the text can be
had back. The indentation of a line is the column reached by its leading spaces and tabs; a tab
moves to the next multiple of the tab width. Line numbers and columns are integers, because
callers may name lines before the first and widths below zero.

A line that is indented anew has to be held, so a buffer knows how long a text its machine has room
for.
-/

namespace TurtleEdit

/-- Why an operation on a buffer failed. -/
inductive Fault where
  /-- No line has this number; the buffer has `count` lines. -/
  | outside (line : Int) (count : Nat)
  /-- A line cannot start at a negative column. -/
  | negativeColumns (columns : Int)
  /-- The fault would show an integer that is too long to be written. -/
  | unwritable (n : Int)
  /-- There is no room for a line that starts that far to the right. -/
  | tooWide (columns : Int)
  /-- A tab was met while tabs have no width. -/
  | zeroTabWidth
  deriving DecidableEq, Repr

/-- The wording of a fault. Memory that runs out has none. -/
def Fault.message : Fault → String
  | outside line count =>
    "Line " ++ toString line ++ " is outside the buffer (0.." ++ toString ((count : Int) - 1) ++ ")"
  | negativeColumns columns => s!"Indentation must be non-negative, got {columns}"
  | unwritable _ => unwritableMessage
  | tooWide columns =>
    if columns < roomBound then "" else "cannot fit 'int' into an index-sized integer"
  | zeroTabWidth => "integer division or modulo by zero"

/-- A fault that shows an integer, or that it cannot be shown. -/
def Fault.showing (n : Int) (fault : Fault) : Fault := if isWritable n then fault else .unwritable n

/-! ## Leading blanks -/

/-- A space or a tab, the characters that indent a line. -/
def isIndent (c : Char) : Bool := c == ' ' || c == '\t'

/-- The leading spaces and tabs of a line. -/
def leading (line : Text) : Text := line.takeWhile isIndent

/-- A line without its leading spaces and tabs. -/
def unindented (line : Text) : Text := line.dropWhile isIndent

/-- The column after one more character of indentation at column `column`. -/
def advance (tabWidth column : Int) (c : Char) : Int :=
  if c = '\t' then (column.fdiv tabWidth + 1) * tabWidth else column + 1

/-- The column that leading blanks reach from column 0. -/
def columnsOf (tabWidth : Int) (blanks : Text) : Int := blanks.foldl (advance tabWidth) 0

/-- The indentation of a line in columns. Only a tab of width 0 has none. -/
def measure (tabWidth : Int) (line : Text) : Except Fault Int :=
  if tabWidth = 0 ∧ '\t' ∈ leading line then .error .zeroTabWidth
  else .ok (columnsOf tabWidth (leading line))

/-! ## Buffers -/

/-- The lines of a text, with the width of a tab, whether a line feed ended the text, and the room
that there is for a line. -/
structure Buffer where
  lines : List Text
  tabWidth : Int
  finalNewline : Bool
  room : Room
  deriving DecidableEq, Repr

/-- There is room for a line that starts at a column and goes on as `line` does behind its leading
spaces and tabs. -/
def Room.holds (room : Room) (columns : Int) (line : Text) : Bool :=
  columns + (unindented line).length ≤ room.size

/-- The width of a tab where none is given. -/
def defaultTabWidth : Int := 8

namespace Buffer

/-- The buffer of a text. A line feed at the end of the text starts no further line. -/
def ofText (text : Text) (tabWidth : Int) (room : Room) : Buffer :=
  if text.getLast? = some '\n' then ⟨splitLines text.dropLast, tabWidth, true, room⟩
  else ⟨splitLines text, tabWidth, false, room⟩

/-- The buffer of the lines' joined text. -/
def ofLines (lines : List Text) (tabWidth : Int) (room : Room) : Buffer :=
  ofText (joinLines lines) tabWidth room

/-- The text of a buffer. -/
def text (buffer : Buffer) : Text :=
  if buffer.finalNewline then joinLines buffer.lines ++ ['\n'] else joinLines buffer.lines

/-- The number of lines. -/
def lineCount (buffer : Buffer) : Nat := buffer.lines.length

/-- The fault of asking for line `n` where there is none. -/
def missing (buffer : Buffer) (n : Int) : Fault := .showing n (.outside n buffer.lineCount)

/-- The line with number `n`, counted from 0. -/
def line (buffer : Buffer) (n : Int) : Except Fault Text :=
  if n < 0 then .error (buffer.missing n)
  else match buffer.lines[n.toNat]? with
    | some line => .ok line
    | none => .error (buffer.missing n)

/-- The indentation of line `n` in columns. -/
def indentation (buffer : Buffer) (n : Int) : Except Fault Int := do
  measure buffer.tabWidth (← buffer.line n)

/-- The shape of every line. -/
def shapes (buffer : Buffer) : List LineShape := buffer.lines.map lineShape

/-- One line of description, if the width of a tab is short enough to be written. -/
def describe? (buffer : Buffer) : Option String := do
  return "TextBuffer(lines=" ++ toString buffer.lineCount ++ ", tab_width=" ++
    (← digits? buffer.tabWidth) ++ ")"

end Buffer

/-! ## Edits -/

/-- What an edit leaves: the buffer, the events passed, and the outcome. An edit that fails keeps
what it had done before. -/
structure Edit (α : Type) where
  buffer : Buffer
  events : List Event
  outcome : Except Fault α

namespace Buffer

/-- Starts line `n` with `columns` spaces in place of its leading spaces and tabs. -/
def setIndentation (buffer : Buffer) (n columns : Int) : Edit Unit :=
  if columns < 0 then ⟨buffer, [], .error (.showing columns (.negativeColumns columns))⟩
  else match buffer.line n with
    | .error fault => ⟨buffer, [], .error fault⟩
    | .ok line =>
      if buffer.room.holds columns line then
        let replaced := List.replicate columns.toNat ' ' ++ unindented line
        ⟨{ buffer with lines := buffer.lines.set n.toNat replaced }, [.reindented n columns],
          .ok ()⟩
      else ⟨buffer, [], .error (.tooWide columns)⟩

end Buffer

end TurtleEdit
