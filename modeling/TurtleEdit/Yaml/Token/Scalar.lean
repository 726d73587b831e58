import TurtleEdit.Number.Reading
import TurtleEdit.Yaml.Fault
import TurtleEdit.Yaml.Token.Cursor

/-!
The texts of scalars: quoted, block and plain.

In each of them the end of a line is folded: one becomes a space, of several the first is dropped.
A literal block keeps its lines. Each reader gives the text and the place after it. Loops carry
the number of characters left as their bound.
-/

namespace TurtleEdit.Yaml

/-- A text and the place after it. -/
abbrev Reading := Text × Cursor

/-- The text of folded line ends: the first is a space unless others follow, and a separator other
than the line feed stays. -/
def foldBreaks (first more : Text) : Text :=
  if first ≠ ['\n'] then first ++ more
  else if more.isEmpty then [' ']
  else more

/-! ## Quoted scalars -/

/-- The line ends at a place inside quotes, with the blanks around them. A mark between documents
may not stand there. -/
def quotedBreaks (cursor : Cursor) : Nat → Except Fault (Text × Cursor)
  | 0 => .error .malformed
  | bound + 1 =>
    if cursor.atDocumentMark then .error .malformed
    else
      let cursor := cursor.skipWhile isGap
      if cursor.peek.any isBreak then do
        let (first, cursor) := cursor.lineBreak
        let (more, cursor) ← quotedBreaks cursor bound
        return (first ++ more, cursor)
      else .ok ([], cursor)

/-- The character that a letter after a backslash stands for. -/
def escape? : Char → Option Nat
  | '0' => some 0x0
  | 'a' => some 0x7
  | 'b' => some 0x8
  | 't' => some 0x9
  | '\t' => some 0x9
  | 'n' => some 0xA
  | 'v' => some 0xB
  | 'f' => some 0xC
  | 'r' => some 0xD
  | 'e' => some 0x1B
  | ' ' => some 0x20
  | '"' => some 0x22
  | '\\' => some 0x5C
  | '/' => some 0x2F
  | 'N' => some 0x85
  | '_' => some 0xA0
  | 'L' => some 0x2028
  | 'P' => some 0x2029
  | _ => none

/-- How many hexadecimal digits follow a letter after a backslash. -/
def escapeWidth? : Char → Option Nat
  | 'x' => some 2
  | 'u' => some 4
  | 'U' => some 8
  | _ => none

/-- The value of hexadecimal digits. -/
def hexValue (digits : Text) : Nat :=
  digits.foldl (fun n c => n * 16 + (digitInBase? 16 c).getD 0) 0

/-- What a backslash before the place stands for. -/
def readEscape (cursor : Cursor) : Except Fault (Codes × Cursor) :=
  match cursor.peek with
  | none => .error .malformed
  | some c =>
    match escape? c, escapeWidth? c with
    | some code, _ => .ok ([code], cursor.next)
    | none, some width =>
      let digits := cursor.next.rest.take width
      if digits.length = width ∧ digits.all isHexDigit then
        let code := hexValue digits
        if 0x10FFFF < code then .error (.noCharacter code)
        else .ok ([code], cursor.next.skip width)
      else .error .malformed
    | none, none =>
      if isBreak c then do
        let cursor := cursor.lineBreak.2
        let (ends, cursor) ← quotedBreaks cursor (cursor.rest.length + 1)
        return (codesOf ends, cursor)
      else .error .malformed

/-- Blanks inside quotes: kept on a line, folded around its end. -/
def readQuotedGap (cursor : Cursor) : Except Fault (Text × Cursor) := do
  let (blanks, cursor) := cursor.takeWhile isGap
  match cursor.peek with
  | none => .error .malformed
  | some c =>
    if isBreak c then
      let (first, cursor) := cursor.lineBreak
      let (more, cursor) ← quotedBreaks cursor (cursor.rest.length + 1)
      return (foldBreaks first more, cursor)
    else return (blanks, cursor)

/-- The rest of a quoted scalar, up to and with its closing mark; `codes` are those before the
place, last first. -/
def readQuoted (mark : Char) (codes : Codes) (cursor : Cursor) :
    Nat → Except Fault (Codes × Cursor)
  | 0 => .error .malformed
  | bound + 1 =>
    match cursor.peek with
    | none => .error .malformed
    | some c =>
      if c = mark then
        if mark ≠ '"' ∧ cursor.peekAt 1 = some mark then
          readQuoted mark (mark.toNat :: codes) (cursor.skip 2) bound
        else .ok (codes.reverse, cursor.next)
      else if isGap c || isBreak c then do
        let (gap, cursor) ← readQuotedGap cursor
        readQuoted mark ((codesOf gap).reverse ++ codes) cursor bound
      else if c = '\\' ∧ mark = '"' then do
        let (escaped, cursor) ← readEscape cursor.next
        readQuoted mark (escaped.reverse ++ codes) cursor bound
      else readQuoted mark (c.toNat :: codes) cursor.next bound

/-- The quoted scalar at a place. -/
def quotedScalar (mark : Char) (cursor : Cursor) : Except Fault (Codes × Cursor) :=
  readQuoted mark [] cursor.next (cursor.rest.length + 1)

/-! ## Block scalars -/

/-- What becomes of the line ends after a block. -/
inductive Chomping where
  | strip
  | clip
  | keep
  deriving DecidableEq, Repr

/-- A sign after the mark of a block. -/
def chomping? : Option Char → Option Chomping
  | some '+' => some .keep
  | some '-' => some .strip
  | _ => none

/-- A digit from 1 to 9 after the mark of a block; 0 is refused. -/
def blockDigit (cursor : Cursor) : Except Fault (Option Nat × Cursor) :=
  match cursor.peek with
  | some '0' => .error .malformed
  | some c => if c.isDigit then .ok (some (c.toNat - 0x30), cursor.next) else .ok (none, cursor)
  | none => .ok (none, cursor)

/-- The sign and the digit after the mark of a block, in either order. -/
def blockHeader (cursor : Cursor) : Except Fault (Chomping × Option Nat × Cursor) := do
  let (chomping, digit, cursor) ← match chomping? cursor.peek with
    | some chomping => do
      let (digit, cursor) ← blockDigit cursor.next
      pure (chomping, digit, cursor)
    | none => do
      let (digit, cursor) ← blockDigit cursor
      match digit, chomping? cursor.peek with
      | some _, some chomping => pure (chomping, digit, cursor.next)
      | _, _ => pure (.clip, digit, cursor)
  if endsWord cursor.peek then return (chomping, digit, cursor) else .error .malformed

/-- The place after the blanks, the comment and the end of a line, where nothing else may stand. -/
def ignoredLine (cursor : Cursor) : Except Fault Cursor :=
  let cursor := (cursor.skipWhile (· == ' ')).skipComment
  if endsLine cursor.peek then .ok cursor.lineBreak.2 else .error .malformed

/-- The empty lines before a block, and the widest of their indentations and that of the first line
of the block. -/
def blockLead (ends : Text) (widest : Nat) (cursor : Cursor) : Nat → Text × Nat × Cursor
  | 0 => (ends, widest, cursor)
  | bound + 1 =>
    match cursor.peek with
    | some ' ' =>
      let cursor := cursor.next
      blockLead ends (max widest cursor.column) cursor bound
    | some c =>
      if isBreak c then
        let (first, cursor) := cursor.lineBreak
        blockLead (ends ++ first) widest cursor bound
      else (ends, widest, cursor)
    | none => (ends, widest, cursor)

/-- The place after at most the spaces that bring it to a column. -/
def indentTo (indent : Nat) (cursor : Cursor) : Cursor :=
  cursor.skip (min (indent - cursor.column) (cursor.rest.takeWhile (· == ' ')).length)

/-- The empty lines of a block at a place. -/
def blockBreaks (indent : Nat) (ends : Text) (cursor : Cursor) : Nat → Text × Cursor
  | 0 => (ends, cursor)
  | bound + 1 =>
    let cursor := indentTo indent cursor
    if cursor.peek.any isBreak then
      let (first, cursor) := cursor.lineBreak
      blockBreaks indent (ends ++ first) cursor bound
    else (ends, cursor)

/-- The lines of a block from the place on, where `ends` are the empty lines before it. The answer
is the text, the last line end and the empty lines after it. -/
def blockLines (folded : Bool) (indent : Nat) (text ends : Text) (cursor : Cursor) :
    Nat → Text × Text × Text × Cursor
  | 0 => (text, [], ends, cursor)
  | bound + 1 =>
    let lead := cursor.peek
    let (line, cursor) := cursor.takeWhile (!isBreak ·)
    let (first, cursor) := cursor.lineBreak
    let text := text ++ ends ++ line
    let (ends, cursor) := blockBreaks indent [] cursor (cursor.rest.length + 1)
    if cursor.column = indent ∧ cursor.peek.isSome then
      let joined := if folded && first == ['\n'] && !lead.any isGap && !cursor.peek.any isGap then
          if ends.isEmpty then [' '] else []
        else first
      blockLines folded indent (text ++ joined) ends cursor bound
    else (text, first, ends, cursor)

/-- The block scalar at a place inside a block collection at column `parent`, or at none when that
is negative. -/
def blockScalar (folded : Bool) (parent : Int) (cursor : Cursor) : Except Fault Reading := do
  let (chomping, digit, cursor) ← blockHeader cursor.next
  let cursor ← ignoredLine cursor
  let least := max 1 (parent + 1).toNat
  let bound := cursor.rest.length + 1
  let (indent, ends, cursor) := match digit with
    | some digit =>
      let indent := least + digit - 1
      let (ends, cursor) := blockBreaks indent [] cursor bound
      (indent, ends, cursor)
    | none =>
      let (ends, widest, cursor) := blockLead [] 0 cursor bound
      (max least widest, ends, cursor)
  let (text, last, ends, cursor) :=
    if cursor.column = indent ∧ cursor.peek.isSome then
      blockLines folded indent [] ends cursor (cursor.rest.length + 1)
    else ([], [], ends, cursor)
  return match chomping with
    | .strip => (text, cursor)
    | .clip => (text ++ last, cursor)
    | .keep => (text ++ last ++ ends, cursor)

/-! ## Plain scalars -/

/-- A mark of a flow collection. -/
def isFlowMark (c : Char) : Bool := c == ',' || c == '[' || c == ']' || c == '\x7b' || c == '\x7d'

/-- The length of a plain word, which ends at a blank, at a colon that ends a key, and inside flow
collections at their marks. -/
def plainLength (inFlow : Bool) : Text → Nat
  | [] => 0
  | c :: rest =>
    if isGap c || isBreak c then 0
    else if c == ':' && (endsMark rest.head? || (inFlow && rest.head?.any isFlowMark)) then 0
    else if inFlow && (isFlowMark c || c == '?') then 0
    else plainLength inFlow rest + 1

/-- The line ends after a plain word, up to a mark between documents. -/
def plainBreaks (ends : Text) (cursor : Cursor) : Nat → Option Text × Cursor
  | 0 => (some ends, cursor)
  | bound + 1 =>
    match cursor.peek with
    | some ' ' => plainBreaks ends cursor.next bound
    | some c =>
      if isBreak c then
        let (first, cursor) := cursor.lineBreak
        if cursor.atDocumentMark then (none, cursor) else plainBreaks (ends ++ first) cursor bound
      else (some ends, cursor)
    | none => (some ends, cursor)

/-- What stands between two plain words, the place after it, and whether a line ended there. -/
def plainGap (cursor : Cursor) : Text × Cursor × Bool :=
  let (blanks, cursor) := cursor.takeWhile (· == ' ')
  if cursor.peek.any isBreak then
    let (first, cursor) := cursor.lineBreak
    if cursor.atDocumentMark then ([], cursor, true)
    else
      match plainBreaks [] cursor (cursor.rest.length + 1) with
      | (none, cursor) => ([], cursor, true)
      | (some more, cursor) => (foldBreaks first more, cursor, true)
  else (blanks, cursor, false)

/-- The words of a plain scalar from the place on; `gap` is what came before them. The answer tells
whether a line ended after the last. -/
def plainWords (inFlow : Bool) (indent : Int) (text gap : Text) (broken : Bool) (cursor : Cursor) :
    Nat → Text × Cursor × Bool
  | 0 => (text, cursor, broken)
  | bound + 1 =>
    let length := plainLength inFlow cursor.rest
    if cursor.peek = some '#' ∨ length = 0 then (text, cursor, broken)
    else
      let text := text ++ gap ++ cursor.rest.take length
      let (gap, cursor, broken) := plainGap (cursor.skip length)
      if gap.isEmpty || cursor.peek == some '#' || (!inFlow && cursor.column < indent) then
        (text, cursor, broken)
      else plainWords inFlow indent text gap broken cursor bound

/-- The plain scalar at a place inside a block collection at column `parent`. -/
def plainScalar (inFlow : Bool) (parent : Int) (cursor : Cursor) : Text × Cursor × Bool :=
  plainWords inFlow (parent + 1) [] [] false cursor (cursor.rest.length + 1)

end TurtleEdit.Yaml
