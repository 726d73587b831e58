import TurtleEdit.Text.Casing
import TurtleEdit.Text.EmojiNames

/-!
Emoji written by their names between colons.

A name runs from a colon to the next one, and no blank may stand in it; its case does not count. A
name can end in a wish for the emoji's plain or coloured form. What names no emoji stays as it is,
and the colon that ends it starts no other name.
-/

namespace TurtleEdit

/-- A name between colons, the form wished for, and the text after it. -/
structure EmojiCode where
  name : Text
  form : Text
  rest : Text

/-- The sign that asks for the plain form of the emoji before it. -/
def plainForm : Text := [Char.ofNat 0xFE0E]

/-- The sign that asks for the coloured form of the emoji before it. -/
def colouredForm : Text := [Char.ofNat 0xFE0F]

/-- The name after a colon, where `begun` is what is read of it, last character first. -/
def readEmojiCode? (begun : Text) : Text → Option EmojiCode
  | [] => none
  | c :: rest =>
    if c == ':' then some ⟨begun.reverse, [], rest⟩
    else if "-emoji:".toList.isPrefixOf (c :: rest) then
      some ⟨begun.reverse, colouredForm, rest.drop 6⟩
    else if "-text:".toList.isPrefixOf (c :: rest) then
      some ⟨begun.reverse, plainForm, rest.drop 5⟩
    else if isBlank c then none
    else readEmojiCode? (c :: begun) rest

/-- The emoji of a name in any case, in the form wished for. -/
def EmojiCode.emoji? (code : EmojiCode) : Option Text :=
  (emojiNamed? (lowerFrom [] code.name)).map (· ++ code.form)

theorem length_of_readEmojiCode? {begun text : Text} {code : EmojiCode}
    (h : readEmojiCode? begun text = some code) : code.rest.length < text.length := by
  induction text generalizing begun with
  | nil => simp [readEmojiCode?] at h
  | cons c rest ih =>
    rw [readEmojiCode?] at h
    split at h
    · cases h
      simp
    · split at h
      · cases h
        simp only [List.length_drop, List.length_cons]
        omega
      · split at h
        · cases h
          simp only [List.length_drop, List.length_cons]
          omega
        · split at h
          · cases h
          · have := ih h
            simp only [List.length_cons]
            omega

/-- A text with emoji in place of their names. -/
def replaceEmoji (text : Text) : Text :=
  match text with
  | [] => []
  | c :: rest =>
    if c = ':' then
      match h : readEmojiCode? [] rest with
      | some code =>
        have := length_of_readEmojiCode? h
        (code.emoji?.getD (c :: rest.take (rest.length - code.rest.length))) ++
          replaceEmoji code.rest
      | none => c :: replaceEmoji rest
    else c :: replaceEmoji rest
termination_by text.length
decreasing_by all_goals simp only [List.length_cons]; omega

end TurtleEdit
