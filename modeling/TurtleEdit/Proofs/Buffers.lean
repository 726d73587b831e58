import TurtleEdit.Proofs.Moving

/-!
What a buffer makes of lines that are given to it, and of an indentation that is set.

Lines are given by their joined text, and a line feed at the end of a text starts no further line.
So the lines of the buffer are those that were given, except where the last of several is empty:
that one is taken for the end of the line above it.

Setting an indentation and measuring one agree on what the leading blanks of a line are, so a line
measures what was set last, whatever it began with. To set what a line measures changes the line
only where a tab stood among its leading blanks. All this holds where there is room for the columns;
where there is none, the buffer stays as it was.
-/

namespace TurtleEdit

/-! ## Lines that are given -/

section Lines

variable {lines : List Text}

/-- An empty line at the end is a line feed at the end of the text. -/
theorem joinLines_append_empty (nonempty : lines ≠ []) (flat : ∀ line ∈ lines, '\n' ∉ line) :
    joinLines (lines ++ [[]]) = joinLines lines ++ ['\n'] := by
  have back := splitLines_append_feed (joinLines lines)
  rw [splitLines_joinLines nonempty flat] at back
  rw [← back, joinLines_splitLines]

theorem getLast?_joinLines_iff (nonempty : lines ≠ []) (flat : ∀ line ∈ lines, '\n' ∉ line) :
    (joinLines lines).getLast? = some '\n' ↔ ∃ above, above ≠ [] ∧ lines = above ++ [[]] := by
  constructor
  · intro feed
    have split := splitLines_append_feed (joinLines lines).dropLast
    rw [List.dropLast_append_getLast? '\n' feed, splitLines_joinLines nonempty flat] at split
    exact ⟨_, splitAt_ne_nil _ _, split⟩
  · intro ends
    obtain ⟨above, several, rfl⟩ := ends
    have flatAbove := fun line member => flat line (List.mem_append_left _ member)
    rw [joinLines_append_empty several flatAbove, List.getLast?_concat]

theorem exists_append_empty_iff :
    (∃ above, above ≠ [] ∧ lines = above ++ [[]]) ↔
      lines.length ≠ 1 ∧ lines.getLast? = some [] := by
  constructor
  · intro ends
    obtain ⟨above, several, rfl⟩ := ends
    have := List.length_pos_of_ne_nil several
    exact ⟨by rw [List.length_append, List.length_singleton]; omega, List.getLast?_concat⟩
  · intro ends
    have whole := List.dropLast_append_getLast? [] ends.2
    refine ⟨lines.dropLast, fun alone => ends.1 ?_, whole.symm⟩
    rw [alone] at whole
    rw [← whole]
    rfl

namespace Buffer

/-- Of lines with an empty one at the end the buffer keeps those above it. -/
theorem ofLines_append_empty (nonempty : lines ≠ []) (flat : ∀ line ∈ lines, '\n' ∉ line)
    (tabWidth : Int) (room : Room) :
    ofLines (lines ++ [[]]) tabWidth room = ⟨lines, tabWidth, true, room⟩ := by
  rw [ofLines, joinLines_append_empty nonempty flat, ofText, if_pos List.getLast?_concat,
    List.dropLast_concat, splitLines_joinLines nonempty flat]

/-- All other lines are the lines of the buffer. -/
theorem ofLines_of_not_append_empty (nonempty : lines ≠ [])
    (flat : ∀ line ∈ lines, '\n' ∉ line)
    (solid : ¬ ∃ above, above ≠ [] ∧ lines = above ++ [[]]) (tabWidth : Int) (room : Room) :
    ofLines lines tabWidth room = ⟨lines, tabWidth, false, room⟩ := by
  rw [ofLines, ofText, if_neg fun feed => solid ((getLast?_joinLines_iff nonempty flat).mp feed),
    splitLines_joinLines nonempty flat]

/-- A buffer of lines has the joined lines for its text. Its lines are the ones that were given,
with one exception: of several lines the last one is lost if it is empty, and then the buffer has a
line feed at the end for it. -/
theorem ofLines_keeps_lines_iff (nonempty : lines ≠ []) (flat : ∀ line ∈ lines, '\n' ∉ line)
    (tabWidth : Int) (room : Room) :
    let buffer := ofLines lines tabWidth room
    buffer.text = joinLines lines ∧
      (buffer.lines = lines ↔ lines.length = 1 ∨ lines.getLast? ≠ some []) ∧
      (buffer.lines ≠ lines → lines = buffer.lines ++ [[]] ∧ buffer.finalNewline = true) := by
  intro buffer
  refine ⟨text_ofText _ _ _, ?_⟩
  by_cases ends : ∃ above, above ≠ [] ∧ lines = above ++ [[]]
  · have empty := exists_append_empty_iff.mp ends
    obtain ⟨above, several, rfl⟩ := ends
    have flatAbove := fun line member => flat line (List.mem_append_left _ member)
    have kept : buffer = ⟨above, tabWidth, true, room⟩ :=
      ofLines_append_empty several flatAbove tabWidth room
    have lost : buffer.lines ≠ above ++ [[]] := by
      rw [kept]
      exact fun same => List.cons_ne_nil _ _ (List.self_eq_append_right.mp same)
    refine ⟨⟨fun same => absurd same lost, fun keeps => ?_⟩, fun _ => ?_⟩
    · exact absurd keeps (not_or.mpr ⟨empty.1, not_not.mpr empty.2⟩)
    · rw [kept]
      exact ⟨rfl, rfl⟩
  · have kept : buffer = ⟨lines, tabWidth, false, room⟩ :=
      ofLines_of_not_append_empty nonempty flat ends tabWidth room
    have same : buffer.lines = lines := by rw [kept]
    refine ⟨⟨fun _ => ?_, fun _ => same⟩, fun lost => absurd same lost⟩
    rw [exists_append_empty_iff] at ends
    by_cases single : lines.length = 1
    · exact Or.inl single
    · exact Or.inr fun empty => ends ⟨single, empty⟩

/-- Empty lines at the start and in the middle are kept, and so is an empty line that is alone. -/
theorem ofLines_keeps_lines_iff_inner :
    let lines : List Text := [[], "a".toList, [], "b".toList]
    lines ≠ [] ∧ (∀ line ∈ lines, '\n' ∉ line) ∧ (ofLines lines 8 .widest).lines = lines ∧
      (ofLines [[]] 8 .widest).lines = [[]] := by
  intro lines
  have flat : ∀ line ∈ lines, '\n' ∉ line := by decide
  have kept := (ofLines_keeps_lines_iff (List.cons_ne_nil _ _) flat 8 .widest).2.1
  have alone := (ofLines_keeps_lines_iff (List.cons_ne_nil [] []) (by decide) 8 .widest).2.1
  exact ⟨List.cons_ne_nil _ _, flat, kept.mpr (Or.inr (by decide)), alone.mpr (Or.inl rfl)⟩

/-- Of two lines, the second one empty, the buffer has the first. -/
theorem ofLines_loses_empty_last :
    let lines : List Text := ["a".toList, []]
    lines ≠ [] ∧ (∀ line ∈ lines, '\n' ∉ line) ∧
      (ofLines lines 8 .widest).lines = ["a".toList] ∧ (ofLines lines 8 .widest).lines ≠ lines := by
  decide

end Buffer

end Lines

/-! ## Columns and spaces -/

section Columns

variable {tabWidth : Int} {line : Text}

/-- With tabs of a width a character moves to the right. -/
theorem advance_nonneg (tabs : 1 ≤ tabWidth) {column : Int} (nonneg : 0 ≤ column) (c : Char) :
    0 ≤ advance tabWidth column c := by
  unfold advance
  split
  · have stop : 0 ≤ column.fdiv tabWidth := Int.fdiv_nonneg nonneg (by omega)
    exact Int.mul_nonneg (by omega) (by omega)
  · omega

theorem columnsOf_nonneg (tabs : 1 ≤ tabWidth) (blanks : Text) : 0 ≤ columnsOf tabWidth blanks := by
  refine List.foldlRecOn (motive := fun column : Int => 0 ≤ column) blanks (advance tabWidth)
    (Int.le_refl 0) ?_
  intro column nonneg c _
  exact advance_nonneg tabs nonneg c

/-- Leading blanks without a tab are spaces. -/
theorem leading_eq_replicate (noTab : '\t' ∉ leading line) :
    leading line = List.replicate (leading line).length ' ' := by
  apply List.eq_replicate_iff.mpr
  refine ⟨rfl, fun c member => ?_⟩
  have indents := indents_leading line c member
  simp only [isIndent, Bool.or_eq_true, beq_iff_eq] at indents
  rcases indents with space | tab
  · exact space
  · exact absurd (tab ▸ member) noTab

/-- A line that gets as many spaces as it measures stays as it is where no tab indents it. -/
theorem replicate_append_unindented_eq_iff :
    List.replicate (columnsOf tabWidth (leading line)).toNat ' ' ++ unindented line = line ↔
      '\t' ∉ leading line := by
  constructor
  · intro same noTab
    have spaces : leading line = List.replicate (columnsOf tabWidth (leading line)).toNat ' ' := by
      apply (List.append_left_inj (unindented line)).mp
      rw [leading_append_unindented, same]
    rw [spaces] at noTab
    exact absurd (List.eq_of_mem_replicate noTab) (by decide)
  · intro noTab
    have spaces := leading_eq_replicate noTab
    have columns : columnsOf tabWidth (leading line) = (leading line).length := by
      rw [spaces, columnsOf_replicate, List.length_replicate]
    rw [columns, Int.toNat_natCast, ← spaces, leading_append_unindented]

end Columns

/-! ## An indentation that is set -/

namespace Buffer

variable {buffer : Buffer} {n : Nat} {line : Text} {columns : Int}

theorem replace_replace (buffer : Buffer) (n : Nat) (line other : Text) :
    (buffer.replace n line).replace n other = buffer.replace n other := by
  rw [replace, replace, replace, List.set_set]

/-- Setting an indentation succeeds where there is room for it. -/
theorem outcome_setIndentation_iff (here : buffer.lines[n]? = some line) (nonneg : 0 ≤ columns) :
    (buffer.setIndentation n columns).outcome = .ok () ↔
      buffer.room.holds columns line = true := by
  cases room : buffer.room.holds columns line with
  | false =>
    rw [setIndentation_of_not_holds here nonneg room]
    exact ⟨(nomatch ·), (nomatch ·)⟩
  | true =>
    rw [setIndentation_of_holds here nonneg room]
    exact ⟨fun _ => rfl, fun _ => rfl⟩

/-- A line measures the columns that were set. -/
theorem indentation_setIndentation (here : buffer.lines[n]? = some line) (nonneg : 0 ≤ columns)
    (room : buffer.room.holds columns line = true) :
    (buffer.setIndentation n columns).buffer.indentation n = .ok columns := by
  have there := buffer.getElem?_replace (List.replicate columns.toNat ' ' ++ unindented line)
    (List.getElem?_eq_some_iff.mp here).1
  rw [setIndentation_of_holds here nonneg room, indentation_of_getElem? there,
    measure_replicate_append, Int.toNat_of_nonneg nonneg]

/-- All other lines, and the faults of asking for lines that are not there, stay the same. -/
theorem line_setIndentation_of_ne (buffer : Buffer) (n : Nat) (columns : Int) {m : Int}
    (other : m ≠ n) : (buffer.setIndentation n columns).buffer.line m = buffer.line m := by
  have respaces := respaces_setIndentation buffer n columns
  unfold Buffer.line missing
  rw [respaces.reindents.lineCount]
  split
  · rfl
  · rw [respaces.getElem?_of_ne (by omega)]

/-- Of two indentations that are set the second one counts. -/
theorem setIndentation_setIndentation (here : buffer.lines[n]? = some line) {first : Int}
    (nonnegFirst : 0 ≤ first) (nonneg : 0 ≤ columns)
    (room : buffer.room.holds columns line = true) :
    ((buffer.setIndentation n first).buffer.setIndentation n columns).buffer =
      (buffer.setIndentation n columns).buffer := by
  cases firstRoom : buffer.room.holds first line with
  | false => rw [setIndentation_of_not_holds here nonnegFirst firstRoom]
  | true =>
    -- the line set first has the same rest, and so finds the same room
    have inside := (List.getElem?_eq_some_iff.mp here).1
    have there := buffer.getElem?_replace (List.replicate first.toNat ' ' ++ unindented line) inside
    have rest := (indents_replicate first.toNat).unindented_append line
    have room' : (buffer.replace n (List.replicate first.toNat ' ' ++ unindented line)).room.holds
        columns (List.replicate first.toNat ' ' ++ unindented line) = true := by
      rw [Room.holds, rest]
      exact room
    rw [setIndentation_of_holds here nonnegFirst firstRoom,
      setIndentation_of_holds there nonneg room', setIndentation_of_holds here nonneg room]
    dsimp only
    rw [replace_replace, rest]

/-- Where there is room for it, setting what a line measures changes a line that a tab indents and
no other. -/
theorem line_setIndentation_columnsOf_iff (here : buffer.lines[n]? = some line)
    (nonneg : 0 ≤ columnsOf buffer.tabWidth (leading line))
    (room : buffer.room.holds (columnsOf buffer.tabWidth (leading line)) line = true) :
    (buffer.setIndentation n (columnsOf buffer.tabWidth (leading line))).buffer.line n = .ok line ↔
      '\t' ∉ leading line := by
  have there := buffer.getElem?_replace
    (List.replicate (columnsOf buffer.tabWidth (leading line)).toNat ' ' ++ unindented line)
    (List.getElem?_eq_some_iff.mp here).1
  rw [setIndentation_of_holds here nonneg room, line_of_getElem? there, Except.ok.injEq]
  exact replicate_append_unindented_eq_iff

/-- What is set is what is measured, and of two indentations that are set the second one counts;
setting succeeds exactly where there is room for the line, leaves the buffer as it was where there
is none, and touches no other line. Where tabs have a width every line measures some columns, and to
set these changes no column, and no line but one that a tab indents. -/
theorem setIndentation_laws (buffer : Buffer) {n : Int} (low : 0 ≤ n)
    (high : n < buffer.lineCount) :
    ∃ line, buffer.line n = .ok line ∧
      (∀ c, 0 ≤ c →
        let edit := buffer.setIndentation n c
        (edit.outcome = .ok () ↔ buffer.room.holds c line = true) ∧
          (buffer.room.holds c line = true → edit.buffer.indentation n = .ok c) ∧
          (buffer.room.holds c line = false →
            edit.outcome = .error (.tooWide c) ∧ edit.buffer = buffer) ∧
          ∀ m, m ≠ n → edit.buffer.line m = buffer.line m) ∧
      (∀ c c', 0 ≤ c → 0 ≤ c' → buffer.room.holds c' line = true →
        ((buffer.setIndentation n c).buffer.setIndentation n c').buffer =
          (buffer.setIndentation n c').buffer) ∧
      (1 ≤ buffer.tabWidth → ∃ c, buffer.indentation n = .ok c ∧ 0 ≤ c ∧
        let edit := buffer.setIndentation n c
        (edit.outcome = .ok () ↔ buffer.room.holds c line = true) ∧
          edit.buffer.indentation n = .ok c ∧
          (buffer.room.holds c line = true →
            (edit.buffer.line n = .ok line ↔ '\t' ∉ leading line))) := by
  obtain ⟨n, rfl⟩ := Int.eq_ofNat_of_zero_le low
  obtain ⟨line, here⟩ := exists_getElem? (Int.ofNat_lt.mp high)
  refine ⟨line, line_of_getElem? here, fun c nonneg => ?_, fun c c' first nonneg room => ?_,
    fun tabs => ?_⟩
  · refine ⟨outcome_setIndentation_iff here nonneg, indentation_setIndentation here nonneg, ?_, ?_⟩
    · intro full
      rw [setIndentation_of_not_holds here nonneg full]
      exact ⟨rfl, rfl⟩
    · exact fun m other => line_setIndentation_of_ne buffer n c other
  · exact setIndentation_setIndentation here first nonneg room
  · have nonneg := columnsOf_nonneg tabs (leading line)
    have measured := (indentation_of_getElem? here).trans (measure_of_pos tabs line)
    refine ⟨_, measured, nonneg, outcome_setIndentation_iff here nonneg, ?_,
      line_setIndentation_columnsOf_iff here nonneg⟩
    cases room : buffer.room.holds (columnsOf buffer.tabWidth (leading line)) line with
    | true => exact indentation_setIndentation here nonneg room
    | false =>
      rw [setIndentation_of_not_holds here nonneg room]
      exact measured

/-- A line that a space and a tab indent up to the tab stop measures the same with four spaces, and
is another line then. What was set in between makes no difference. -/
theorem setIndentation_laws_tab :
    let buffer : Buffer := ⟨[" \ta".toList, "b".toList], 4, false, .widest⟩
    let edit := buffer.setIndentation 0 4
    (0 : Int) < buffer.lineCount ∧ buffer.indentation 0 = .ok 4 ∧ edit.outcome = .ok () ∧
      edit.buffer.indentation 0 = .ok 4 ∧ edit.buffer.line 0 ≠ buffer.line 0 ∧
      edit.buffer.line 1 = buffer.line 1 ∧
      ((buffer.setIndentation 0 9).buffer.setIndentation 0 4).buffer = edit.buffer := by
  intro buffer edit
  have inside : (0 : Int) < buffer.lineCount := by decide
  obtain ⟨line, here, sets, wins, keeps⟩ := setIndentation_laws buffer (Int.le_refl 0) inside
  obtain ⟨c, measured, -, done, stands, changed⟩ := keeps (by decide)
  obtain rfl : " \ta".toList = line := Except.ok.inj here
  obtain rfl : 4 = c := Except.ok.inj measured
  have room : buffer.room.holds 4 " \ta".toList = true := by decide +kernel
  refine ⟨inside, measured, done.mpr room, stands, ?_, (sets 4 (by decide)).2.2.2 1 (by decide),
    wins 9 4 (by decide) (by decide) room⟩
  intro same
  exact (changed room).mp (same.trans here) (by decide)

/-- With so wide a tab a line measures columns that cannot be set. And a line that is to start there
stays where it stands. -/
theorem setIndentation_fails_beyond_limit :
    let far : Int := 1000000000000000000000000000000
    let wide : Buffer := ⟨["\ta".toList], far, false, .widest⟩
    let plain : Buffer := ⟨["a".toList], 8, false, .widest⟩
    1 ≤ wide.tabWidth ∧ wide.indentation 0 = .ok far ∧
      (wide.setIndentation 0 far).outcome = .error (.tooWide far) ∧
      (plain.setIndentation 0 far).outcome = .error (.tooWide far) ∧
      (plain.setIndentation 0 far).buffer.indentation 0 = .ok 0 :=
  ⟨by decide, by rfl, by rfl, by rfl, by rfl⟩

end Buffer

end TurtleEdit
