import TurtleEdit.Highlight.LongString
import TurtleEdit.Journal

/-!
Regions of a text, widened so that they cut no long string.

A host asks for a part of a text. Out of range offsets are moved into the text first. Then the
start moves back to the opening delimiter of a string that holds it, to the start of the text where
no delimiter comes before it, and else to the start of its line, but not into the string before
it. The end moves to the end of the line that holds the next delimiter, and on to a line's end as
long as a string holds it.
-/

namespace TurtleEdit

/-- The offset of the first line feed at or after `pos`, or the size of the text. -/
def lineEnd (text : Text) (pos : Nat) : Nat :=
  pos + ((text.drop pos).takeWhile (· != '\n')).length

/-- The offset after the last line feed before `pos`, or 0. -/
def lineStart (text : Text) (pos : Nat) : Nat :=
  pos - ((text.take pos).reverse.takeWhile (· != '\n')).length

/-- The offsets from `start` up to `stop`. -/
structure Region where
  start : Nat
  stop : Nat
  deriving DecidableEq, Repr

namespace Region

/-- The region of two offsets moved into a text of `size` characters, the start first. -/
def clamp (size : Nat) (start stop : Int) : Region :=
  let start := min start.toNat size
  ⟨start, max start (min stop.toNat size)⟩

/-- Where a region that starts at `pos` has to start. -/
def widenStart (text : Text) (pos : Nat) : Nat :=
  match ((LongString.all text).takeWhile (·.opener < pos)).getLast? with
  | none => 0
  | some long =>
    if long.holds pos then long.opener
    else max (lineStart text pos) (long.stop text.length)

/-- Moves `pos` forward, from line end to line end, until no long string holds it. The strings
come in order, so one pass is enough. -/
def settle (text : Text) (pos : Nat) : Nat :=
  (LongString.all text).foldl
    (fun pos long => if long.holds pos then lineEnd text (long.stop text.length) else pos) pos

/-- Where a region that stops at `pos` has to stop. -/
def widenStop (text : Text) (pos : Nat) : Nat :=
  match (delimiters text).find? (pos ≤ ·) with
  | some delimiter => settle text (lineEnd text (delimiter + 3))
  | none => settle text pos

/-- The region widened so that it cuts no long string. -/
def widen (text : Text) (region : Region) : Region :=
  ⟨widenStart text region.start, widenStop text region.stop⟩

/-- The widened region of two offsets, with a report if widening changed anything. -/
def extend (text : Text) (start stop : Int) : Region × List Event :=
  let asked := clamp text.length start stop
  let wide := asked.widen text
  (wide, if wide = asked then [] else [.widened asked.start asked.stop wide.start wide.stop])

end Region

end TurtleEdit
