import TurtleEdit.Text.Blank
import TurtleEdit.Text.Casing
import TurtleEdit.Text.Quoted

/-!
Texts as code points, halves of surrogate pairs included.

A half stands for no character, so no text can hold it; but an escape can name one. Code points
keep it: it is shown by its number, has no case, and two different halves stay different.
-/

namespace TurtleEdit

/-- A text as its code points, among which halves of surrogate pairs may be. -/
abbrev Codes := List Nat

/-- The code points of a text. -/
def codesOf (text : Text) : Codes := text.map Char.toNat

/-- Half of a surrogate pair. -/
def isHalf (n : Nat) : Bool := 0xD800 ≤ n && n ≤ 0xDFFF

/-- The text of code points, unless a half is among them. -/
def Codes.text? (codes : Codes) : Option Text :=
  if codes.any isHalf then none else some (codes.map Char.ofNat)

/-- A code point between quotation marks. -/
def quoteCode (mark : Char) (n : Nat) : List Char :=
  if isHalf n then escapeCode n else quoteChar mark (Char.ofNat n)

/-- Code points in quotation marks. -/
def quotedCodes (codes : Codes) : String :=
  let mark := quoteMark (codes.map Char.ofNat)
  String.ofList (mark :: codes.flatMap (quoteCode mark) ++ [mark])

/-- Lower case of code points, where `piece` holds the characters since the last half, last first.
Casing does not look across a half. -/
def lowerPieces (piece : Text) : Codes → Codes
  | [] => codesOf (lowerFrom [] piece.reverse)
  | n :: rest =>
    if isHalf n then codesOf (lowerFrom [] piece.reverse) ++ n :: lowerPieces [] rest
    else lowerPieces (Char.ofNat n :: piece) rest

/-- Lower case of code points. -/
def lowerCodes (codes : Codes) : Codes := lowerPieces [] codes

end TurtleEdit
