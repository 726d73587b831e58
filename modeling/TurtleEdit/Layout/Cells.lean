import TurtleEdit.Text.Width

/-!
Texts fitted into the cells of a screen.

Before a text is laid out it loses the controls that would move the cursor. A tab runs to the next
stop. A text that is fitted takes a given number of cells: a shorter one is filled with spaces and a
longer one is cut, with a space where the cut would go through a wide character. Where characters
without a width of their own stand at the cut, several cuts give the same cells; the place is then
the first that bisection finds.
-/

namespace TurtleEdit

/-- Bell, backspace, vertical tab, form feed and carriage return, which are never shown. -/
def movesCursor (c : Char) : Bool :=
  c.toNat == 7 || c.toNat == 8 || c.toNat == 11 || c.toNat == 12 || c.toNat == 13

/-- A text without the controls that are never shown. -/
def showable (text : Text) : Text := text.filter fun c => !movesCursor c

/-- A number of spaces. -/
def spaces (n : Nat) : Text := List.replicate n ' '

/-- Replaces tabs by spaces up to the next multiple of `stop`, where `size` is the width of the
other characters and the text starts at `column`. A line feed returns to column 0. -/
def expandTabs (stop : Nat) (size : Char → Nat) (column : Nat) : Text → Text
  | [] => []
  | c :: rest =>
    if c = '\t' then
      let gap := stop - column % stop
      spaces gap ++ expandTabs stop size (column + gap) rest
    else if c = '\n' then c :: expandTabs stop size 0 rest
    else c :: expandTabs stop size (column + size c) rest

/-- Cuts a text to `width` cells; half a wide character becomes a space. -/
def cutCells (width : Nat) : Text → Text
  | [] => []
  | c :: rest =>
    if width = 0 then []
    else if width < charCells c then [' ']
    else c :: cutCells (width - charCells c) rest

/-- The last character of a text takes two cells. -/
def endsWide (text : Text) : Bool := (text.getLast?.map fun c => charCells c == 2).getD false

/-- Cuts a text to `width` cells at the first place that bisection between `start` and `stop` finds.
Every step halves the distance, so that the length of the text is `fuel` enough. -/
def bisectCells (width : Nat) (text : Text) (fuel start stop : Nat) : Text :=
  match fuel with
  | 0 => cutCells width text
  | fuel + 1 =>
    let middle := (start + stop) / 2
    let kept := text.take (middle + 1)
    if cells kept = width + 1 ∧ endsWide kept then kept.dropLast ++ [' ']
    else if cells kept = width then kept
    else if width < cells kept then bisectCells width text fuel start middle
    else bisectCells width text fuel middle stop

/-- A text that takes `width` cells: filled with spaces, or cut. -/
def fitCells (width : Nat) (text : Text) : Text :=
  if cells text ≤ width then text ++ spaces (width - cells text)
  else if width = 0 then []
  else bisectCells width text (text.length + 1) 0 text.length

/-- What happens to a word that takes more cells than a line has. -/
inductive Overflow where
  /-- The word goes on in the next line. -/
  | fold
  /-- The word is cut, and an ellipsis stands at the end. -/
  | ellipsis
  deriving DecidableEq, Repr

/-- Cuts a text that takes more than `width` cells. -/
def truncate (overflow : Overflow) (width : Nat) (text : Text) : Text :=
  if cells text ≤ width then text
  else match overflow with
    | .fold => fitCells width text
    | .ellipsis => fitCells (width - 1) text ++ ['…']

/-- How a line stands in its width. -/
inductive Align where
  /-- The line stays as it is. -/
  | free
  | left
  | center
  | right
  deriving DecidableEq, Repr

/-- A text without the blanks at its end. -/
def dropEndBlanks (text : Text) : Text := (dropBlanks text.reverse).reverse

/-- A line placed in `width` cells. In the middle, an odd space goes to the right. -/
def Align.apply (align : Align) (overflow : Overflow) (width : Nat) (line : Text) : Text :=
  match align with
  | .free => truncate overflow width line
  | .left =>
    let line := truncate overflow width line
    line ++ spaces (width - cells line)
  | .center =>
    let line := truncate overflow width (dropEndBlanks line)
    let line := spaces ((width - cells line) / 2) ++ line
    line ++ spaces (width - cells line)
  | .right =>
    let line := truncate overflow width (dropEndBlanks line)
    spaces (width - cells line) ++ line

end TurtleEdit
