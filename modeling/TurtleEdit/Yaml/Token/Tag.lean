import TurtleEdit.Text.Utf8
import TurtleEdit.Yaml.Token
import TurtleEdit.Yaml.Token.Scalar

/-!
Tags, anchors and directives: the tokens that are single words.
-/

namespace TurtleEdit.Yaml

/-- A character of the names of anchors, handles and directives. -/
def isHandleChar (c : Char) : Bool := c.isAlphanum || c == '-' || c == '_'

/-- A character of a tag's suffix. -/
def isSuffixChar (c : Char) : Bool :=
  c.isAlphanum || "-;/?:@&=+$,_.!~*'()[]%".toList.contains c

/-- A name after the mark at the place, which `ends` has to end. -/
def markedName (ends : Option Char → Bool) (cursor : Cursor) : Except Fault Reading :=
  let (name, cursor) := cursor.next.takeWhile isHandleChar
  if name.isEmpty || !ends cursor.peek then .error .malformed else .ok (name, cursor)

/-- What may follow the name of an anchor. -/
def endsAnchor (c : Option Char) : Bool :=
  endsMark c || c.any fun c => "?:,]\x7d%@".toList.contains c || c.toNat == 0x60

/-! ## Tags -/

/-- Bytes written as a percent sign and two hexadecimal digits, and the text after them. -/
def percentBytes : Text → Option (List UInt8 × Text)
  | '%' :: a :: b :: rest =>
    if isHexDigit a && isHexDigit b then
      (percentBytes rest).map fun (bytes, rest) => (UInt8.ofNat (hexValue [a, b]) :: bytes, rest)
    else none
  | '%' :: _ => none
  | rest => some ([], rest)

/-- The suffix of a tag: its characters, where bytes after percent signs spell further ones. -/
def readSuffix (text : Text) (cursor : Cursor) : Nat → Except Fault Reading
  | 0 => .error .malformed
  | bound + 1 =>
    match cursor.peek with
    | some '%' =>
      match percentBytes cursor.rest with
      | none => .error .malformed
      | some (bytes, rest) =>
        match decodeUtf8 bytes.toByteArray with
        | .error _ => .error .malformed
        | .ok decoded =>
          readSuffix (text ++ decoded) (cursor.skip (cursor.rest.length - rest.length)) bound
    | some c =>
      if isSuffixChar c then readSuffix (text ++ [c]) cursor.next bound else .ok (text, cursor)
    | none => .ok (text, cursor)

/-- The suffix of a tag at the place, which may not be missing. -/
def tagSuffix (cursor : Cursor) : Except Fault Reading := do
  let (suffix, after) ← readSuffix [] cursor (cursor.rest.length + 1)
  if after.index = cursor.index then .error .malformed else return (suffix, after)

/-- The handle of a tag at the place: an exclamation mark, or a name between two. -/
def tagHandle (cursor : Cursor) : Except Fault Reading :=
  if cursor.peek ≠ some '!' then .error .malformed
  else if cursor.peekAt 1 = some ' ' then .ok (['!'], cursor.next)
  else
    let (name, after) := cursor.next.takeWhile isHandleChar
    if after.peek = some '!' then .ok ('!' :: name ++ ['!'], after.next) else .error .malformed

/-- The tag at the place. -/
def readTag (cursor : Cursor) : Except Fault (Token × Cursor) := do
  let (token, cursor) ←
    if cursor.peekAt 1 = some '<' then do
      let (suffix, cursor) ← tagSuffix (cursor.skip 2)
      if cursor.peek ≠ some '>' then throw .malformed
      pure (Token.tag none suffix, cursor.next)
    else if endsMark (cursor.peekAt 1) then
      pure (Token.tag none ['!'], cursor.next)
    else if ((cursor.next.rest.takeWhile fun c => !endsWord (some c)).contains '!') then do
      let (handle, cursor) ← tagHandle cursor
      let (suffix, cursor) ← tagSuffix cursor
      pure (Token.tag (some handle) suffix, cursor)
    else do
      let (suffix, cursor) ← tagSuffix cursor.next
      pure (Token.tag (some ['!']) suffix, cursor)
  if endsWord cursor.peek then return (token, cursor) else throw .malformed

/-! ## Directives -/

/-- The decimal number at the place. -/
def versionNumber (cursor : Cursor) : Except Fault (Nat × Cursor) :=
  let (digits, cursor) := cursor.takeWhile Char.isDigit
  if digits.isEmpty then .error .malformed
  else if digitLimit < digits.length then .error (.tooManyDigits digits.length)
  else .ok (digits.foldl (fun n c => n * 10 + (c.toNat - 0x30)) 0, cursor)

/-- The rest of a version directive. -/
def versionDirective (cursor : Cursor) : Except Fault (Directive × Cursor) := do
  let (major, cursor) ← versionNumber (cursor.skipWhile (· == ' '))
  if cursor.peek ≠ some '.' then throw .malformed
  let (_, cursor) ← versionNumber cursor.next
  if endsWord cursor.peek then return (.version major, cursor) else throw .malformed

/-- The rest of a tag directive. -/
def tagDirective (cursor : Cursor) : Except Fault (Directive × Cursor) := do
  let (handle, cursor) ← tagHandle (cursor.skipWhile (· == ' '))
  if cursor.peek ≠ some ' ' then throw .malformed
  let (target, cursor) ← tagSuffix (cursor.skipWhile (· == ' '))
  if endsWord cursor.peek then return (.tagHandle handle target, cursor) else throw .malformed

/-- The directive at the place, with its line. -/
def readDirective (cursor : Cursor) : Except Fault (Token × Cursor) := do
  let (name, cursor) ← markedName endsWord cursor
  let (directive, cursor) ←
    if name = "YAML".toList then versionDirective cursor
    else if name = "TAG".toList then tagDirective cursor
    else pure (.other, cursor.skipWhile (!isBreak ·))
  return (.directive directive, ← ignoredLine cursor)

end TurtleEdit.Yaml
