import TurtleEdit.Text.Blank

/-!
A place in a document: what is left to read, and where the place is.

Several characters end a line, and a line's end is read as a line feed, except that the line and
paragraph separators stand for themselves. A byte order mark takes no column.
-/

namespace TurtleEdit.Yaml

/-- A character that ends a line. -/
def isBreak (c : Char) : Bool :=
  c == '\r' || c == '\n' || c.toNat == 0x85 || c.toNat == 0x2028 || c.toNat == 0x2029

/-- A space or a tab. -/
def isGap (c : Char) : Bool := c == ' ' || c == '\t'

/-- The document or its line ends here. -/
def endsLine : Option Char → Bool
  | none => true
  | some c => isBreak c

/-- A space, or the end of a line or of the document. -/
def endsWord : Option Char → Bool
  | none => true
  | some c => c == ' ' || isBreak c

/-- A space, a tab, or the end of a line or of the document. -/
def endsMark : Option Char → Bool
  | none => true
  | some c => isGap c || isBreak c

/-- A place in a document. -/
structure Cursor where
  rest : Text
  index : Nat
  line : Nat
  column : Nat
  deriving DecidableEq, Repr

namespace Cursor

/-- The start of a document. -/
def start (text : Text) : Cursor := ⟨text, 0, 0, 0⟩

/-- The character at the place. -/
def peek (cursor : Cursor) : Option Char := cursor.rest.head?

/-- The character `n` characters on. -/
def peekAt (cursor : Cursor) (n : Nat) : Option Char := cursor.rest[n]?

/-- The place after one character. -/
def next (cursor : Cursor) : Cursor :=
  match cursor.rest with
  | [] => cursor
  | c :: rest =>
    if isBreak c && !(c == '\r' && rest.head? == some '\n') then
      ⟨rest, cursor.index + 1, cursor.line + 1, 0⟩
    else if c.toNat == 0xFEFF then ⟨rest, cursor.index + 1, cursor.line, cursor.column⟩
    else ⟨rest, cursor.index + 1, cursor.line, cursor.column + 1⟩

/-- The place `n` characters on. -/
def skip (cursor : Cursor) : Nat → Cursor
  | 0 => cursor
  | n + 1 => cursor.next.skip n

/-- The characters of a class at the place, and the place after them. -/
def takeWhile (cursor : Cursor) (inClass : Char → Bool) : Text × Cursor :=
  let run := cursor.rest.takeWhile inClass
  (run, cursor.skip run.length)

/-- The place after the characters of a class. -/
def skipWhile (cursor : Cursor) (inClass : Char → Bool) : Cursor := (cursor.takeWhile inClass).2

/-- The end of a line, if one is at the place, and the place after it. -/
def lineBreak (cursor : Cursor) : Text × Cursor :=
  match cursor.rest with
  | '\r' :: '\n' :: _ => (['\n'], cursor.skip 2)
  | c :: _ =>
    if c.toNat == 0x2028 || c.toNat == 0x2029 then ([c], cursor.next)
    else if isBreak c then (['\n'], cursor.next)
    else ([], cursor)
  | [] => ([], cursor)

/-- The place at the end of a comment, if one is at the place. -/
def skipComment (cursor : Cursor) : Cursor :=
  if cursor.peek = some '#' then cursor.skipWhile (!isBreak ·) else cursor

/-- Three marks that start or end a document are at the place. -/
def atDocumentMark (cursor : Cursor) : Bool :=
  match cursor.rest with
  | '-' :: '-' :: '-' :: rest => endsMark rest.head?
  | '.' :: '.' :: '.' :: rest => endsMark rest.head?
  | _ => false

end Cursor

end TurtleEdit.Yaml
