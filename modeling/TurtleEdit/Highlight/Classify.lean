import TurtleEdit.Highlight.Canvas
import TurtleEdit.Highlight.Region
import TurtleEdit.Highlight.Rule

/-!
Highlighting: a rule table run over a widened region of a text.

The region is widened so that it cuts no long string, each rule paints its matches in the region
on a canvas, and the runs of the canvas are the answer. Patterns see the character before the
region, and the region's end as the end of the text.
-/

namespace TurtleEdit

/-- A rule asks for a group that its pattern, which matched, does not have. -/
structure NoSuchGroup where
  rule : Rule

/-- The wording of the failure. -/
def NoSuchGroup.message (_ : NoSuchGroup) : String := "no such group"

namespace Region

/-- The character before a region. -/
def before (region : Region) (text : Text) : Option Char := (text.take region.start).getLast?

/-- The characters of a region. -/
def body (region : Region) (text : Text) : Text :=
  (text.drop region.start).take (region.stop - region.start)

end Region

namespace Rule

/-- Paints one match. Without `overrides` a match that begins on painted text is left out, and
painted characters keep their style. -/
def paint (rule : Rule) (canvas : Canvas) (found : Match) : Canvas :=
  match rule.target found with
  | none => canvas
  | some (start, stop) =>
    if rule.overrides || canvas[start]?.join.isNone then
      canvas.fill start stop rule.style rule.overrides
    else canvas

/-- Paints every match in a text that follows the character `before`. -/
def apply (rule : Rule) (before : Option Char) (text : Text) (canvas : Canvas) :
    Except NoSuchGroup Canvas :=
  let found := rule.pattern.matchesIn before text
  if rule.groupExists then .ok (found.foldl rule.paint canvas)
  else if found.isEmpty then .ok canvas
  else .error ⟨rule⟩

end Rule

/-- The canvas of a region after all rules. -/
def paintRegion (rules : List Rule) (text : Text) (region : Region) : Except NoSuchGroup Canvas :=
  rules.foldlM (fun canvas rule => rule.apply (region.before text) (region.body text) canvas)
    (Canvas.empty (region.body text).length)

/-- The spans of the widened region of two offsets; without a second one it runs to the end of the
text. -/
def classify (rules : List Rule) (text : Text) (start : Int) (stop : Option Int) :
    Except NoSuchGroup (List Span) := do
  let region := (Region.extend text start (stop.getD text.length)).1
  return (← paintRegion rules text region).spans region.start

end TurtleEdit
