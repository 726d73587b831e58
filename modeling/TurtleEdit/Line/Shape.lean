import TurtleEdit.Text.Blank
import TurtleEdit.Text.Word

/-!
What one line does to the block structure of a document, judged by its ends alone.

A line that holds nothing but a resource, `<iri>` or `name:local`, is a header: it opens the
description of that resource. Any other line is judged by its last character that is not blank.
A line closes an anonymous node when it ends in `]`, `],`, `];` or `], [`, blanks aside.

Nothing here parses: comments and strings are not looked for, and a shape never depends on other
lines.
-/

namespace TurtleEdit

/-- The part a line plays in the block structure. -/
inductive LineShape where
  /-- A resource alone on its line. -/
  | header
  /-- Ends with a full stop. -/
  | statementEnd
  /-- Ends with a semicolon. -/
  | continuation
  /-- Ends with a comma. -/
  | listItem
  /-- Ends with an opening bracket. -/
  | blockOpen
  /-- Ends with a closing bracket. -/
  | blockClose
  /-- Everything else, blank lines included. -/
  | other
  deriving DecidableEq, Repr

namespace LineShape

/-- Every shape, in the order of their numbers. -/
def all : List LineShape :=
  [header, statementEnd, continuation, listItem, blockOpen, blockClose, other]

/-- The name under which a shape is reported. -/
def name : LineShape → String
  | header => "HEADER"
  | statementEnd => "STATEMENT_END"
  | continuation => "CONTINUATION"
  | listItem => "LIST_ITEM"
  | blockOpen => "BLOCK_OPEN"
  | blockClose => "BLOCK_CLOSE"
  | other => "OTHER"

/-- The number of a shape, counted from one. -/
def number (shape : LineShape) : Nat := shape.ctorIdx + 1

/-- The shape that a last character gives a line that is no header. -/
def ofLast : Char → LineShape
  | '.' => statementEnd
  | ';' => continuation
  | ',' => listItem
  | '[' => blockOpen
  | ']' => blockClose
  | _ => other

end LineShape

/-! ## Resources -/

/-- A character that may stand between angle brackets. -/
def isIriChar (c : Char) : Bool := c != '<' && c != '>' && !isBlank c

/-- An iri in angle brackets. -/
def isIriRef : Text → Bool
  | '<' :: rest =>
    match rest.reverse with
    | '>' :: inner => inner.all isIriChar
    | _ => false
  | _ => false

/-- The part of a name before its colon: empty, or an ASCII letter or underscore followed by name
characters. -/
def isHeaderNamespace : Text → Bool
  | [] => true
  | c :: rest => (c.isAlpha || c == '_') && rest.all isNameChar

/-- The part of a name after its colon: empty, or non-empty runs of name characters divided by
full stops. -/
def isLocalPart (text : Text) : Bool :=
  text.isEmpty || (splitAt '.' text).all fun run => !run.isEmpty && run.all isNameChar

/-- A name made of a namespace, a colon and a local part. -/
def isHeaderName (text : Text) : Bool :=
  match text.dropWhile (· != ':') with
  | _ :: localPart => isHeaderNamespace (text.takeWhile (· != ':')) && isLocalPart localPart
  | [] => false

/-- A resource stands alone on the line. -/
def isHeader (line : Text) : Bool :=
  let inner := trimBlanks line
  isIriRef inner || isHeaderName inner

/-! ## Ends of lines -/

/-- A closing bracket ends the reversed text, with no line feed before the bracket. -/
def endsInBracket : Text → Bool
  | ']' :: before => !before.contains '\n'
  | _ => false

/-- The line closes an anonymous node: blanks aside it ends in `]`, `],`, `];` or `], [`, and the
bracket stands on the first line of the text. -/
def closesNode (line : Text) : Bool :=
  match dropBlanks line.reverse with
  | ',' :: before => endsInBracket (dropBlanks before)
  | ';' :: before => endsInBracket (dropBlanks before)
  | '[' :: before =>
    match dropBlanks before with
    | ',' :: before => endsInBracket (dropBlanks before)
    | _ => false
  | text => endsInBracket text

/-- The shape of a line: a header, or what its last character that is not blank says. -/
def lineShape (line : Text) : LineShape :=
  if isHeader line then .header
  else match dropBlanks line.reverse with
    | last :: _ => .ofLast last
    | [] => .other

end TurtleEdit
