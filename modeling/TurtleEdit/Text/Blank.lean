/-!
Texts, classes of characters, blank characters and lines.

A text is the list of its characters, so that every offset, length and column counts characters.
The classes of characters that this library needs beyond ASCII are tables of a standard. Blank
characters are the white space of every script; of them only the line feed ends a line.
-/

namespace TurtleEdit

/-- A text is the list of its characters. -/
abbrev Text := List Char

/-- A set of code points: inclusive ranges in increasing order. -/
abbrev CodeRanges := List (Nat × Nat)

/-- Some range holds the code point `n`. -/
def CodeRanges.contains (ranges : CodeRanges) (n : Nat) : Bool :=
  ranges.any fun range => range.1 ≤ n && n ≤ range.2

theorem CodeRanges.contains_iff {ranges : CodeRanges} {n : Nat} :
    ranges.contains n = true ↔ ∃ range ∈ ranges, range.1 ≤ n ∧ n ≤ range.2 := by
  simp [CodeRanges.contains]

/-- White space: tab to carriage return, the separators below the space, the space, and the white
space beyond ASCII. The zero-width spaces are not among it. -/
def blankRanges : CodeRanges := [
  (0x9, 0xD), (0x1C, 0x20), (0x85, 0x85), (0xA0, 0xA0), (0x1680, 0x1680), (0x2000, 0x200A),
  (0x2028, 0x2029), (0x202F, 0x202F), (0x205F, 0x205F), (0x3000, 0x3000)]

/-- A blank character. -/
def isBlank (c : Char) : Bool := blankRanges.contains c.toNat

/-- A text without the blanks at its start. -/
def dropBlanks (text : Text) : Text := text.dropWhile isBlank

/-- A text without the blanks at either end. -/
def trimBlanks (text : Text) : Text := (dropBlanks (dropBlanks text).reverse).reverse

/-- The pieces of a text between the occurrences of a separator, one more than there are
separators. -/
def splitAt (sep : Char) : Text → List Text
  | [] => [[]]
  | c :: rest =>
    if c = sep then [] :: splitAt sep rest
    else match splitAt sep rest with
      | piece :: pieces => (c :: piece) :: pieces
      | [] => [[c]]

/-- The words of a text between its blanks, where `word` is the one begun, last character first. -/
def blankWordsFrom (word : Text) : Text → List Text
  | [] => if word.isEmpty then [] else [word.reverse]
  | c :: rest =>
    if isBlank c then
      if word.isEmpty then blankWordsFrom [] rest else word.reverse :: blankWordsFrom [] rest
    else blankWordsFrom (c :: word) rest

/-- The words of a text between its blanks. -/
def blankWords (text : Text) : List Text := blankWordsFrom [] text

/-- The lines of a text, without their line feeds. -/
def splitLines (text : Text) : List Text := splitAt '\n' text

/-- Lines joined by line feeds. -/
def joinLines (lines : List Text) : Text := List.intercalate ['\n'] lines

/-- A text is part of another. -/
def occursIn (part : Text) : Text → Bool
  | [] => part.isEmpty
  | c :: rest => part.isPrefixOf (c :: rest) || occursIn part rest

theorem splitAt_ne_nil (sep : Char) (text : Text) : splitAt sep text ≠ [] := by
  cases text with
  | nil => simp [splitAt]
  | cons c rest =>
    rw [splitAt]
    split
    · simp
    · split <;> simp

end TurtleEdit
