import TurtleEdit.Layout.Cells

/-!
Texts wrapped into lines of a width.

A line is broken between words, and a word keeps the blanks that follow it. Blanks at the end of a
line do not count when the line is filled; what they have beyond the width is dropped. A word that
no line can hold starts a line of its own and is folded over several, or stays in one to be cut.
-/

namespace TurtleEdit

/-- Cuts a text wherever a blank is followed by another character. -/
def cutAfterBlanks : Text → List Text
  | [] => []
  | c :: rest =>
    match cutAfterBlanks rest with
    | [] => [[c]]
    | piece :: pieces =>
      if isBlank c && !(piece.head?.map isBlank).getD false then [c] :: piece :: pieces
      else (c :: piece) :: pieces

/-- The words of a line, each with the blanks after it; the first one also has the blanks at the
start. -/
def words (line : Text) : List Text :=
  match cutAfterBlanks line with
  | first :: second :: rest =>
    if first.all isBlank then (first ++ second) :: rest else first :: second :: rest
  | pieces => pieces

/-- The cells of a word without the blanks after it. -/
def wordCells (word : Text) : Nat := cells (dropEndBlanks word)

/-- Pieces of a word, each of at most `width` cells as far as its characters allow. -/
def foldWord (width : Nat) (current : Text) : Text → List Text
  | [] => [current]
  | c :: rest =>
    if width < cells current + charCells c then current :: foldWord width [c] rest
    else foldWord width (current ++ [c]) rest

/-- The lines of words, where the line begun holds `current`. -/
def fillLines (overflow : Overflow) (width : Nat) (current : Text) : List Text → List Text
  | [] => [current]
  | word :: rest =>
    if cells current + wordCells word ≤ width then
      fillLines overflow width (current ++ word) rest
    else
      let pieces :=
        if overflow = .fold ∧ width < wordCells word then foldWord width [] word else [word]
      let begun := if current.isEmpty then [] else [current]
      begun ++ pieces.dropLast ++ fillLines overflow width (pieces.getLast?.getD []) rest

/-- A line without the blanks at its end that lie beyond `width` characters. -/
def dropExcessBlanks (width : Nat) (line : Text) : Text :=
  let blanks := (line.reverse.takeWhile isBlank).length
  line.take (line.length - min blanks (line.length - width))

/-- A text laid out in lines of `width` cells, with tab stops every eight. -/
def wrap (align : Align) (overflow : Overflow) (width : Nat) (text : Text) : List Text :=
  (splitLines text).flatMap fun line =>
    (fillLines overflow width [] (words (expandTabs 8 charCells 0 line))).map fun line =>
      align.apply overflow width (dropExcessBlanks width line)

end TurtleEdit
