import TurtleEdit.Line.Shape
import TurtleEdit.Limits

/-!
What the library reports while it works.

Functions that report return the events they passed, in order, beside their result; nothing is
written anywhere. Each event has one wording, unless it holds an integer too long to be written.
-/

namespace TurtleEdit

/-- How much an event matters. -/
inductive Level where
  | debug
  | warning
  deriving DecidableEq, Repr

/-- The word that stands before a message of a level. -/
def Level.name : Level → String
  | debug => "DEBUG"
  | warning => "WARNING"

/-- A step worth reporting. -/
inductive Event where
  /-- A line was given new leading blanks. -/
  | reindented (line columns : Int)
  /-- A line was placed because it closes an anonymous node. -/
  | closedNode (line columns : Int)
  /-- A line was placed by the shape and the indentation of the line above. -/
  | followed (line : Int) (shape : LineShape) (above columns : Int)
  /-- A region was widened before it was scanned. -/
  | widened (start stop newStart newStop : Nat)
  /-- A configuration file held a mapping. -/
  | loaded (source : String)
  /-- A setting has no meaning; it is shown in its quoted form, unless that has too long an
  integer. -/
  | unknownKey (key : Option String)
  deriving DecidableEq, Repr

namespace Event

/-- The level at which an event is reported. -/
def level : Event → Level
  | unknownKey _ => .warning
  | _ => .debug

/-- The wording of an event, if its integers are short enough to be written. -/
def message? : Event → Option String
  | reindented line columns => do
    return "Line " ++ (← digits? line) ++ " indented to " ++ (← digits? columns) ++ " column(s)"
  | closedNode line columns => do
    return "Line " ++ (← digits? line) ++ " closes a node: " ++ (← digits? columns)
  | followed line shape above columns => do
    return "Line " ++ (← digits? line) ++ " after " ++ shape.name ++ " line at " ++
      (← digits? above) ++ ": " ++ (← digits? columns)
  | widened start stop newStart newStop =>
    some s!"Region {start}-{stop} widened to {newStart}-{newStop}"
  | loaded source => some ("Loaded configuration from " ++ source)
  | unknownKey key => key.map ("Ignoring unknown configuration key " ++ ·)

/-- The event can be worded. -/
def canShow (event : Event) : Bool := event.message?.isSome

/-- The event as one line of a report. -/
def render? (event : Event) : Option String :=
  event.message?.map (event.level.name ++ " " ++ ·)

end Event

end TurtleEdit
