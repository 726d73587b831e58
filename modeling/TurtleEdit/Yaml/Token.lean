import TurtleEdit.Text.Codes

/-!
The tokens of a document.

Indentation shows in the tokens as the start and the end of block collections, and a simple key as
the mark of a key before it, so that what follows needs no column.
-/

namespace TurtleEdit.Yaml

/-- A line before a document that says how to read it. -/
inductive Directive where
  | version (major : Nat)
  | tagHandle (handle target : Text)
  | other
  deriving DecidableEq, Repr

/-- A token. -/
inductive Token where
  | directive (directive : Directive)
  | documentStart
  | documentEnd
  | streamEnd
  | blockSequenceStart
  | blockMappingStart
  | blockEnd
  | flowSequenceStart
  | flowSequenceEnd
  | flowMappingStart
  | flowMappingEnd
  | flowEntry
  | blockEntry
  | key
  | value
  | alias (name : Text)
  | anchor (name : Text)
  /-- A tag; without a handle the suffix is the whole of it. -/
  | tag (handle : Option Text) (suffix : Text)
  /-- A scalar; a plain one stands without quotes and marks. -/
  | scalar (codes : Codes) (plain : Bool)
  deriving DecidableEq, Repr

end TurtleEdit.Yaml
