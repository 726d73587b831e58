import TurtleEdit.Proofs.Placing
import TurtleEdit.Proofs.Room

/-!
Moving lines to the right or to the left changes no token.

Spaces and tabs at the start of a line may be put in and taken out without a change to the tokens of
a text, so the lines of a buffer may be indented in any way. An indenter does no more than that, at
any line and whether it comes to the end of its region or not.
-/

namespace TurtleEdit

/-! ## Texts that differ in their indentation -/

/-- Two texts have the same tokens, if the long strings of one of them lie in one line each; then
those of the other do too. -/
structure Alike (text other : Text) : Prop where
  inLine : LongStringsInLine text ↔ LongStringsInLine other
  tokens : LongStringsInLine text → tokens text = tokens other

namespace Alike

variable {text other third : Text}

theorem refl (text : Text) : Alike text text := ⟨Iff.rfl, fun _ => rfl⟩

theorem symm (alike : Alike text other) : Alike other text where
  inLine := alike.inLine.symm
  tokens inLine := (alike.tokens (alike.inLine.mpr inLine)).symm

theorem trans (one : Alike text other) (two : Alike other third) : Alike text third where
  inLine := one.inLine.trans two.inLine
  tokens inLine := (one.tokens inLine).trans (two.tokens (one.inLine.mp inLine))

/-- Spaces and tabs at the start of a line make no difference. -/
theorem indents {front blanks : Text} (line : LineFront front) (indents : Indents blanks)
    (rest : Text) : Alike (front ++ (blanks ++ rest)) (front ++ rest) := by
  induction blanks with
  | nil => exact refl _
  | cons b others ih =>
    obtain ⟨first, later⟩ := List.forall_mem_cons.mp indents
    refine trans ⟨longStringsInLine_insert line first _, fun inLine => ?_⟩ (ih later)
    exact tokens_insert line ((longStringsInLine_insert line first _).mp inLine) first

/-- Nor does another indentation of a line. -/
theorem of_unindented {front line moved : Text} (start : LineFront front)
    (same : unindented moved = unindented line) (rest : Text) :
    Alike (front ++ (line ++ rest)) (front ++ (moved ++ rest)) := by
  have bare : ∀ line : Text, Alike (front ++ (line ++ rest))
      (front ++ (unindented line ++ rest)) := by
    intro line
    have split := indents start (indents_leading line) (unindented line ++ rest)
    rwa [← List.append_assoc (leading line), leading_append_unindented] at split
  have other := (bare moved).symm
  rw [same] at other
  exact (bare line).trans other

end Alike

/-! ## Buffers -/

theorem joinLines_cons_cons (line next : Text) (lines : List Text) :
    joinLines (line :: next :: lines) = line ++ '\n' :: joinLines (next :: lines) := by
  simp [joinLines]

theorem joinLines_splitLines (text : Text) : joinLines (splitLines text) = text := by
  unfold splitLines
  induction text with
  | nil => rfl
  | cons c rest ih =>
    rw [splitAt]
    cases pieces : splitAt '\n' rest with
    | nil => exact absurd pieces (splitAt_ne_nil _ _)
    | cons piece others =>
      rw [pieces] at ih
      split
      · next feed => rw [joinLines_cons_cons, ih, feed, List.nil_append]
      · cases others with
        | nil =>
          rw [← ih]
          simp [joinLines]
        | cons next later =>
          rw [joinLines_cons_cons, List.cons_append, ← joinLines_cons_cons, ih]

namespace Buffer

/-- The text of a buffer is the text that it holds. -/
theorem text_ofText (text : Text) (tabWidth : Int) (room : Room) :
    (ofText text tabWidth room).text = text := by
  unfold ofText
  split
  · next feed =>
    rw [Buffer.text, if_pos rfl, joinLines_splitLines]
    exact List.dropLast_append_getLast? '\n' feed
  · rw [Buffer.text, if_neg Bool.false_ne_true, joinLines_splitLines]

/-- In a joined text a line stands at the start of a line, and what is around it does not depend on
it. -/
theorem exists_joinLines (above below : List Text) :
    ∃ front rest, LineFront front ∧
      ∀ line, joinLines (above ++ line :: below) = front ++ (line ++ rest) := by
  induction above with
  | nil =>
    cases below with
    | nil => exact ⟨[], [], Or.inl rfl, fun line => by simp [joinLines]⟩
    | cons next later =>
      exact ⟨[], '\n' :: joinLines (next :: later), Or.inl rfl, fun line =>
        joinLines_cons_cons line next later⟩
  | cons first others ih =>
    obtain ⟨front, rest, start, joined⟩ := ih
    refine ⟨first ++ '\n' :: front, rest, ?_, fun line => ?_⟩
    · rcases start with rfl | ⟨text, rfl⟩
      · exact Or.inr ⟨first, rfl⟩
      · exact Or.inr ⟨first ++ '\n' :: text, by simp⟩
    · have further : joinLines (first :: (others ++ line :: below)) =
          first ++ '\n' :: joinLines (others ++ line :: below) := by
        cases others with
        | nil => exact joinLines_cons_cons _ _ _
        | cons second more => exact joinLines_cons_cons _ _ _
      rw [List.cons_append, further, joined]
      simp

/-- A line of a buffer may be indented in another way. -/
theorem alike_replace {buffer : Buffer} {n : Nat} {line moved : Text}
    (here : buffer.lines[n]? = some line) (same : unindented moved = unindented line) :
    Alike buffer.text (buffer.replace n moved).text := by
  obtain ⟨bound, rfl⟩ := List.getElem?_eq_some_iff.mp here
  obtain ⟨front, rest, start, joined⟩ :=
    exists_joinLines (buffer.lines.take n) (buffer.lines.drop (n + 1))
  have old : joinLines buffer.lines = front ++ (buffer.lines[n] ++ rest) := by
    rw [← joined, ← List.drop_eq_getElem_cons bound, List.take_append_drop]
  have new : joinLines (buffer.lines.set n moved) = front ++ (moved ++ rest) := by
    rw [← joined, List.set_eq_take_append_cons_drop, if_pos bound]
  unfold Buffer.text Buffer.replace
  dsimp only
  rw [old, new]
  split
  · simp only [List.append_assoc]
    exact Alike.of_unindented start same (rest ++ ['\n'])
  · exact Alike.of_unindented start same rest

theorem Respaces.alike {α : Type} {buffer : Buffer} {n : Int} {edit : Edit α}
    (respaces : Respaces buffer n edit) : Alike buffer.text edit.buffer.text := by
  cases respaces with
  | kept same => exact same ▸ Alike.refl _
  | moved here left _ =>
    rw [left]
    exact alike_replace here ((indents_replicate _).unindented_append _)

end Buffer

/-! ## Running an indenter -/

namespace Indenter

theorem alike_indentFrom (indenter : Indenter) (buffer : Buffer) (n count : Nat) :
    Alike buffer.text (indenter.indentFrom buffer n count).buffer.text :=
  indentFrom_keeps (fun buffer other => Alike buffer.text other.text)
    (fun buffer => Alike.refl buffer.text) Alike.trans
    (fun buffer m _ _ => (respaces_indentLine indenter buffer m).alike) buffer

/-- Where every long string lies in one line, putting lines of a text where they belong leaves the
text the tokens that it had: the same styles in the same order, each on the same characters. -/
theorem classify_indentRegion (indenter : Indenter) (text : Text) (inLine : LongStringsInLine text)
    (tabWidth : Int) (room : Room) (start : Int) (stop : Option Int) :
    let after := (indenter.indentRegion (Buffer.ofText text tabWidth room) start stop).buffer.text
    ∃ spans others, classify standardRules text 0 none = .ok spans ∧
      classify standardRules after 0 none = .ok others ∧
      others.map (Span.read after) = spans.map (Span.read text) := by
  intro after
  have alike : Alike text after := by
    have run := alike_indentFrom indenter (Buffer.ofText text tabWidth room)
      (clampLines (Buffer.ofText text tabWidth room).lineCount start stop).1
      (clampLines (Buffer.ofText text tabWidth room).lineCount start stop).2
    rwa [Buffer.text_ofText] at run
  exact ⟨_, _, classify_whole groupExists_standardRules text,
    classify_whole groupExists_standardRules after, (alike.tokens inLine).symm⟩

/-- A declaration broken after its word, an attempt at a long string that fails at a backslash
before a line feed, and a line that begins with a tab. -/
theorem classify_indentRegion_broken :
    let text := "@prefix\n  p: <u> .\np:s\np:t \"\"\"a\\\n\tb:c ;\nd:e \"g\"@en .\n".toList
    let after :=
      "@prefix\np: <u> .\np:s\n    p:t \"\"\"a\\\n    b:c ;\n    d:e \"g\"@en .\n".toList
    let indenter : Indenter := ⟨4⟩
    (indenter.indentRegion (Buffer.ofText text 8 .widest) (-1) none).buffer.text = after ∧
      ∃ spans others, classify standardRules text 0 none = .ok spans ∧
        classify standardRules after 0 none = .ok others ∧
        others.map (Span.read after) = spans.map (Span.read text) := by
  intro text after indenter
  have run :
      (indenter.indentRegion (Buffer.ofText text 8 .widest) (-1) none).buffer.text = after := by
    decide +kernel
  refine ⟨run, ?_⟩
  have same := classify_indentRegion indenter text (by decide +kernel) 8 .widest (-1) none
  rwa [run] at same

end Indenter

end TurtleEdit
