import TurtleEdit.Text.Printable

/-!
Texts in quotation marks, on one line and with nothing hidden.

A text is quoted by apostrophes, or by double quotes if it holds an apostrophe and no double quote.
The mark itself, backslashes, line ends and tabs are written with a backslash, other characters
that do not print by their code point.
-/

namespace TurtleEdit

/-- The apostrophe. -/
def apostrophe : Char := Char.ofNat 0x27

/-- The last `width` hexadecimal digits of a number, in lower case. -/
def hexDigits : (width : Nat) → Nat → List Char
  | 0, _ => []
  | width + 1, n => hexDigits width (n / 16) ++ [(n % 16).digitChar]

/-- The mark that quotes a text. -/
def quoteMark (text : List Char) : Char :=
  if text.contains apostrophe && !text.contains '"' then '"' else apostrophe

/-- A character that does not print, by its code point. -/
def escapeCode (n : Nat) : List Char :=
  if n < 0x100 then '\\' :: 'x' :: hexDigits 2 n
  else if n < 0x10000 then '\\' :: 'u' :: hexDigits 4 n
  else '\\' :: 'U' :: hexDigits 8 n

/-- A character between quotation marks. -/
def quoteChar (mark c : Char) : List Char :=
  if c = mark ∨ c = '\\' then ['\\', c]
  else if c = '\n' then ['\\', 'n']
  else if c = '\r' then ['\\', 'r']
  else if c = '\t' then ['\\', 't']
  else if isPrintable c then [c]
  else escapeCode c.toNat

/-- A text in quotation marks. -/
def quoted (text : String) : String :=
  let mark := quoteMark text.toList
  String.ofList (mark :: text.toList.flatMap (quoteChar mark) ++ [mark])

/-- Bytes in quotation marks: ASCII as in a text, everything else by its number. -/
def quotedBytes (bytes : List UInt8) : String :=
  let text := bytes.map fun b => Char.ofNat b.toNat
  let mark := quoteMark text
  let body := text.flatMap fun c => if c.toNat < 0x7F then quoteChar mark c else escapeCode c.toNat
  String.ofList ('b' :: mark :: body ++ [mark])

end TurtleEdit
