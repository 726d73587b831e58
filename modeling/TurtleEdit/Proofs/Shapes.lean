import TurtleEdit.Buffer.Basic

/-!
What a line is does not depend on how far it is indented.

Blanks before and behind a line do not change its shape. Spaces and tabs are blanks, and neither do
they change which node the line closes. So two lines that differ in their leading spaces and tabs
only are alike, and a line keeps its shape when it is moved.
-/

namespace TurtleEdit

/-! ## Indentation -/

/-- A text of spaces and tabs. -/
def Indents (blanks : Text) : Prop := ∀ c ∈ blanks, isIndent c = true

theorem isBlank_of_isIndent {c : Char} (indents : isIndent c = true) : isBlank c = true := by
  simp only [isIndent, Bool.or_eq_true, beq_iff_eq] at indents
  rcases indents with rfl | rfl <;> decide

theorem indents_leading (line : Text) : Indents (leading line) :=
  fun _ member => List.all_eq_true.mp List.all_takeWhile _ member

theorem leading_append_unindented (line : Text) : leading line ++ unindented line = line :=
  List.takeWhile_append_dropWhile

theorem leading_unindented (line : Text) : leading (unindented line) = [] := by
  have first := List.head?_dropWhile_not isIndent line
  rw [unindented, leading]
  cases rest : line.dropWhile isIndent with
  | nil => rfl
  | cons c after =>
    rw [rest] at first
    exact List.takeWhile_cons_of_neg (by simpa using first)

theorem indents_replicate (n : Nat) : Indents (List.replicate n ' ') := by
  intro c member
  rw [List.eq_of_mem_replicate member]
  rfl

/-! ## Blanks around a line -/

/-- A text of blanks. -/
def Blanks (text : Text) : Prop := ∀ c ∈ text, isBlank c = true

namespace Blanks

variable {blanks : Text}

theorem reverse (allBlank : Blanks blanks) : Blanks blanks.reverse :=
  fun c member => allBlank c (List.mem_reverse.mp member)

theorem dropBlanks_append (allBlank : Blanks blanks) (line : Text) :
    dropBlanks (blanks ++ line) = dropBlanks line :=
  List.dropWhile_append_of_pos allBlank

/-- Blanks at the far end of a text go with the text if all of it is blank, and stay else. -/
theorem dropBlanks_append_right (allBlank : Blanks blanks) (line : Text) :
    dropBlanks (line ++ blanks) = [] ∧ dropBlanks line = [] ∨
      ∃ c rest, dropBlanks (line ++ blanks) = c :: (rest ++ blanks) ∧
        dropBlanks line = c :: rest := by
  have gone : blanks.dropWhile isBlank = [] := by
    have nothing := allBlank.dropBlanks_append []
    rwa [List.append_nil] at nothing
  rw [dropBlanks, List.dropWhile_append]
  cases kept : dropBlanks line with
  | nil =>
    rw [dropBlanks] at kept
    exact Or.inl ⟨by rw [kept, List.isEmpty_nil, if_pos rfl, gone], rfl⟩
  | cons c rest =>
    rw [dropBlanks] at kept
    exact Or.inr ⟨c, rest, by rw [kept]; rfl, rfl⟩

theorem trimBlanks_append (allBlank : Blanks blanks) (line : Text) :
    trimBlanks (blanks ++ line) = trimBlanks line := by
  rw [trimBlanks, allBlank.dropBlanks_append, ← trimBlanks]

theorem trimBlanks_append_right (allBlank : Blanks blanks) (line : Text) :
    trimBlanks (line ++ blanks) = trimBlanks line := by
  unfold trimBlanks
  rcases allBlank.dropBlanks_append_right line with ⟨gone, empty⟩ | ⟨c, rest, stays, kept⟩
  · rw [gone, empty]
  · rw [stays, kept, ← List.cons_append, List.reverse_append, allBlank.reverse.dropBlanks_append]

/-- Blanks before a line do not change its shape. -/
theorem lineShape_append (allBlank : Blanks blanks) (line : Text) :
    lineShape (blanks ++ line) = lineShape line := by
  have header : isHeader (blanks ++ line) = isHeader line := by
    simp only [isHeader, allBlank.trimBlanks_append]
  unfold lineShape
  rw [header, List.reverse_append]
  rcases allBlank.reverse.dropBlanks_append_right line.reverse with
    ⟨gone, empty⟩ | ⟨c, rest, stays, kept⟩
  · rw [gone, empty]
  · rw [stays, kept]

/-- Blanks behind a line do not change its shape. -/
theorem lineShape_append_right (allBlank : Blanks blanks) (line : Text) :
    lineShape (line ++ blanks) = lineShape line := by
  have header : isHeader (line ++ blanks) = isHeader line := by
    simp only [isHeader, allBlank.trimBlanks_append_right]
  unfold lineShape
  rw [header, List.reverse_append, allBlank.reverse.dropBlanks_append]

end Blanks

theorem dropBlanks_of_solid {text : Text} (solid : ∀ c ∈ text, isBlank c = false) :
    dropBlanks text = text := by
  cases text with
  | nil => rfl
  | cons c rest => exact List.dropWhile_cons_of_neg (by simp [solid c List.mem_cons_self])

theorem trimBlanks_of_solid {text : Text} (solid : ∀ c ∈ text, isBlank c = false) :
    trimBlanks text = text := by
  have backwards : ∀ c ∈ text.reverse, isBlank c = false := fun c member =>
    solid c (List.mem_reverse.mp member)
  rw [trimBlanks, dropBlanks_of_solid solid, dropBlanks_of_solid backwards, List.reverse_reverse]

/-! ## Indentation of a line -/

namespace Indents

variable {blanks : Text}

theorem allBlank (indents : Indents blanks) : Blanks blanks :=
  fun c member => isBlank_of_isIndent (indents c member)

theorem newline_not_mem (indents : Indents blanks) : '\n' ∉ blanks :=
  fun member => absurd (indents _ member) (by decide)

theorem reverse (indents : Indents blanks) : Indents blanks.reverse :=
  fun c member => indents c (List.mem_reverse.mp member)

theorem leading_append (indents : Indents blanks) (line : Text) :
    leading (blanks ++ unindented line) = blanks := by
  have nothing := leading_unindented line
  rw [leading] at nothing
  rw [leading, List.takeWhile_append_of_pos indents, nothing, List.append_nil]

theorem unindented_append (indents : Indents blanks) (line : Text) :
    unindented (blanks ++ unindented line) = unindented line := by
  have split := leading_append_unindented (unindented line)
  rw [leading_unindented, List.nil_append, unindented] at split
  rw [unindented, List.dropWhile_append_of_pos indents, split]

theorem endsInBracket_append (indents : Indents blanks) (c : Char) (rest : Text) :
    endsInBracket (c :: (rest ++ blanks)) = endsInBracket (c :: rest) := by
  by_cases bracket : c = ']'
  · subst bracket
    simp [endsInBracket, indents.newline_not_mem]
  · simp [endsInBracket, bracket]

theorem endsInBracket_dropBlanks_append (indents : Indents blanks) (line : Text) :
    endsInBracket (dropBlanks (line ++ blanks)) = endsInBracket (dropBlanks line) := by
  rcases indents.allBlank.dropBlanks_append_right line with ⟨gone, empty⟩ | ⟨c, rest, stays, kept⟩
  · rw [gone, empty]
  · rw [stays, kept, indents.endsInBracket_append]

/-- Indentation does not change which node a line closes. -/
theorem closesNode_append (indents : Indents blanks) (line : Text) :
    closesNode (blanks ++ line) = closesNode line := by
  have ends := indents.reverse
  unfold closesNode
  rw [List.reverse_append]
  rcases ends.allBlank.dropBlanks_append_right line.reverse with
    ⟨gone, empty⟩ | ⟨c, rest, stays, kept⟩
  · rw [gone, empty]
  · rw [stays, kept]
    by_cases comma : c = ','
    · subst comma
      exact ends.endsInBracket_dropBlanks_append rest
    by_cases semicolon : c = ';'
    · subst semicolon
      exact ends.endsInBracket_dropBlanks_append rest
    by_cases bracket : c = '['
    · subst bracket
      rcases ends.allBlank.dropBlanks_append_right rest with
        ⟨gone, empty⟩ | ⟨d, before, stays, kept⟩
      · simp only [gone, empty]
      · simp only [stays, kept]
        by_cases comma : d = ','
        · subst comma
          exact ends.endsInBracket_dropBlanks_append before
        · simp [comma]
    · simpa [comma, semicolon, bracket] using ends.endsInBracket_append c rest

end Indents

/-! ## Shapes -/

/-- Lines that differ in their indentation only close the same node. -/
theorem closesNode_of_unindented {line moved : Text} (same : unindented moved = unindented line) :
    closesNode moved = closesNode line := by
  rw [← leading_append_unindented moved, (indents_leading moved).closesNode_append, same,
    ← (indents_leading line).closesNode_append, leading_append_unindented]

/-- Lines that differ in their indentation only have the same shape. -/
theorem lineShape_of_unindented {line moved : Text} (same : unindented moved = unindented line) :
    lineShape moved = lineShape line := by
  rw [← leading_append_unindented moved, (indents_leading moved).allBlank.lineShape_append, same,
    ← (indents_leading line).allBlank.lineShape_append, leading_append_unindented]

/-- A line that ends with a full stop closes no node. -/
theorem closesNode_of_statementEnd {line : Text} (ends : lineShape line = .statementEnd) :
    closesNode line = false := by
  unfold lineShape at ends
  split at ends
  · cases ends
  · unfold closesNode
    split at ends
    next last before kept =>
      rw [kept]
      -- of the last characters only the full stop gives this shape
      unfold LineShape.ofLast at ends
      split at ends <;> first | rfl | cases ends
    next => cases ends

end TurtleEdit
