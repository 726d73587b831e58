import TurtleEdit.Proofs.Moving

/-!
What calls on a buffer leave, however many there are and whichever of them fail.

A call may name any line, any column and any width of a level. It is refused if its line is not
there or its column is negative, and then the buffer is as it was. A call that is not refused comes
to an answer, unless a line does not fit where it is to go; a region then stays placed down to that
line. In any case nothing but the indentation of lines has changed, so after any calls the buffer
has the lines of its text, behind other leading blanks.
-/

namespace TurtleEdit

/-- The integer that a fault shows is short enough to be written. -/
def Fault.Writable : Fault → Prop
  | outside n _ | negativeColumns n => isWritable n = true
  | _ => True

theorem Fault.showing_of_isWritable {n : Int} {fault : Fault} (writable : isWritable n = true) :
    Fault.showing n fault = fault := by
  rw [Fault.showing, if_pos writable]

namespace Buffer

variable {buffer : Buffer} {n : Int}

/-! ## Calls -/

/-- What a call on a buffer answers. -/
inductive Answer where
  | line (line : Text)
  | columns (columns : Int)
  | region (columns : List Int)
  | done
  deriving DecidableEq, Repr

/-- A call on a buffer. The calls that find columns or place lines come with an indenter. -/
inductive Step where
  | line (n : Int)
  | indentation (n : Int)
  | setIndentation (n columns : Int)
  | infer (indenter : Indenter) (n : Int)
  | indentLine (indenter : Indenter) (n : Int)
  | indentRegion (indenter : Indenter) (start : Int) (stop : Option Int)

namespace Step

/-- Carries out a call. Those that only ask leave the buffer as it is. -/
def run (buffer : Buffer) : Step → Edit Answer
  | line n => ⟨buffer, [], (buffer.line n).map .line⟩
  | indentation n => ⟨buffer, [], (buffer.indentation n).map .columns⟩
  | setIndentation n columns =>
    let edit := buffer.setIndentation n columns
    ⟨edit.buffer, edit.events, edit.outcome.map fun _ => .done⟩
  | infer indenter n =>
    let found := indenter.infer buffer n
    ⟨buffer, (found.toOption.bind (·.event)).toList, found.map (.columns ·.columns)⟩
  | indentLine indenter n =>
    let edit := indenter.indentLine buffer n
    ⟨edit.buffer, edit.events, edit.outcome.map .columns⟩
  | indentRegion indenter start stop =>
    let edit := indenter.indentRegion buffer start stop
    ⟨edit.buffer, edit.events, edit.outcome.map .region⟩

end Step

/-- The buffer after calls, one after the other; a call that fails leaves its buffer to the next. -/
def after (buffer : Buffer) (steps : List Step) : Buffer :=
  steps.foldl (fun buffer step => (step.run buffer).buffer) buffer

/-! ## What every call keeps -/

/-- A call changes no more than the indentation of lines. -/
theorem Step.reindents_run (buffer : Buffer) (step : Step) :
    Reindents buffer (step.run buffer).buffer := by
  cases step with
  | line n => exact .refl buffer
  | indentation n => exact .refl buffer
  | setIndentation n columns => exact (respaces_setIndentation buffer n columns).reindents
  | infer indenter n => exact .refl buffer
  | indentLine indenter n => exact Indenter.reindents_indentLine indenter buffer n
  | indentRegion indenter start stop => exact Indenter.reindents_indentFrom indenter buffer _ _

theorem reindents_after (buffer : Buffer) (steps : List Step) :
    Reindents buffer (buffer.after steps) := by
  refine List.foldlRecOn (motive := Reindents buffer) steps _ (.refl buffer) ?_
  intro last reindents step _
  exact reindents.trans (step.reindents_run last)

/-! ## Calls that are refused -/

/-- The fault of naming a line that is not there. -/
def outside? (buffer : Buffer) (n : Int) : Option Fault :=
  if 0 ≤ n ∧ n < buffer.lineCount then none else some (.outside n buffer.lineCount)

theorem line_of_outside? {fault : Fault} (refused : buffer.outside? n = some fault) :
    ∃ why, buffer.line n = .error why ∧ (fault.Writable → why = fault) := by
  unfold outside? at refused
  split at refused
  · cases refused
  · next missing =>
    obtain rfl := Option.some.inj refused
    refine ⟨buffer.missing n, ?_, Fault.showing_of_isWritable⟩
    unfold Buffer.line
    split
    · rfl
    · next low =>
      have beyond : buffer.lines.length ≤ n.toNat := by
        unfold lineCount at missing
        omega
      rw [List.getElem?_eq_none beyond]

theorem exists_of_not_outside? (inside : buffer.outside? n = none) :
    ∃ (m : Nat) (line : Text), n = m ∧ buffer.lines[m]? = some line := by
  unfold outside? at inside
  split at inside
  · next bounds =>
    obtain ⟨m, rfl⟩ := Int.eq_ofNat_of_zero_le bounds.1
    obtain ⟨line, here⟩ := exists_getElem? (Int.ofNat_lt.mp bounds.2)
    exact ⟨m, line, rfl, here⟩
  · cases inside

/-- Why a call is refused, if it is: its line is not there, or it would set a negative column. Where
both is so, the column counts. A region has no line that is not there. -/
def Step.refusal? (buffer : Buffer) : Step → Option Fault
  | setIndentation n columns =>
    if columns < 0 then some (.negativeColumns columns) else buffer.outside? n
  | line n | indentation n | infer _ n | indentLine _ n => buffer.outside? n
  | indentRegion _ _ _ => none

/-- A call that is refused does nothing, and the fault is the one that it is refused for, if that
can be written. -/
theorem Step.run_of_refusal? {step : Step} {fault : Fault}
    (refused : step.refusal? buffer = some fault) :
    (step.run buffer).buffer = buffer ∧
      ∃ why, (step.run buffer).outcome = .error why ∧ (fault.Writable → why = fault) := by
  cases step with
  | line n =>
    obtain ⟨why, missing, shown⟩ := line_of_outside? refused
    exact ⟨rfl, why, by rw [run, missing]; rfl, shown⟩
  | indentation n =>
    obtain ⟨why, missing, shown⟩ := line_of_outside? refused
    exact ⟨rfl, why, by rw [run, Buffer.indentation, missing]; rfl, shown⟩
  | infer indenter n =>
    obtain ⟨why, missing, shown⟩ := line_of_outside? refused
    exact ⟨rfl, why, by rw [run, Indenter.infer, missing]; rfl, shown⟩
  | indentLine indenter n =>
    obtain ⟨why, missing, shown⟩ := line_of_outside? refused
    rw [run, Indenter.indentLine, Indenter.infer, missing]
    exact ⟨rfl, why, rfl, shown⟩
  | setIndentation n columns =>
    by_cases negative : columns < 0
    · rw [refusal?, if_pos negative] at refused
      obtain rfl := Option.some.inj refused
      rw [run, Buffer.setIndentation, if_pos negative]
      exact ⟨rfl, _, rfl, Fault.showing_of_isWritable⟩
    · rw [refusal?, if_neg negative] at refused
      obtain ⟨why, missing, shown⟩ := line_of_outside? refused
      rw [run, Buffer.setIndentation, if_neg negative, missing]
      exact ⟨rfl, why, rfl, shown⟩
  | indentRegion indenter start stop => cases refused

end Buffer

/-! ## Calls that find no room -/

namespace Indenter

variable {indenter : Indenter} {buffer : Buffer} {fault : Fault}

/-- Lines that cannot all be placed are placed down to the first that cannot. -/
theorem indentFrom_of_fault {n count : Nat}
    (failed : (indenter.indentFrom buffer n count).outcome = .error fault) :
    ∃ k columns, k < count ∧ (indenter.indentFrom buffer n k).outcome = .ok columns ∧
      (indenter.indentFrom buffer n k).buffer = (indenter.indentFrom buffer n count).buffer ∧
      (indenter.indentLine (indenter.indentFrom buffer n count).buffer (n + k : Nat)).outcome =
        .error fault := by
  induction count generalizing buffer n with
  | zero => cases failed
  | succ count ih =>
    cases first : (indenter.indentLine buffer n).outcome with
    | error other =>
      obtain ⟨left, stops⟩ := indentFrom_of_error first count
      obtain rfl : other = fault := Except.error.inj (stops.symm.trans failed)
      rw [left, (respaces_indentLine indenter buffer n).buffer_of_error first]
      exact ⟨0, [], Nat.succ_pos count, rfl, rfl, first⟩
    | ok column =>
      obtain ⟨left, outcome⟩ := indentFrom_of_ok first rfl count
      rw [outcome, map_eq_error_iff] at failed
      obtain ⟨k, columns, before, placed, kept, stops⟩ := ih failed
      obtain ⟨leftAbove, outcomeAbove⟩ := indentFrom_of_ok first rfl k
      refine ⟨k + 1, column :: columns, Nat.succ_lt_succ before, ?_, ?_, ?_⟩
      · rw [outcomeAbove, placed]
        rfl
      · rw [leftAbove, left, kept]
      · rw [left, ← Nat.add_assoc, Nat.add_right_comm]
        exact stops

/-- A region that ends above one of the lines of another that begins at the same line. -/
theorem clampLines_above {lineCount : Nat} {start : Int} {stop : Option Int} {i : Nat}
    (inside : i < (clampLines lineCount start stop).2) :
    clampLines lineCount start (some ((clampLines lineCount start stop).1 + i : Nat)) =
      ((clampLines lineCount start stop).1, i) := by
  have bound := clampLines_lt inside
  have first : (clampLines lineCount start stop).1 = start.toNat := by
    cases stop <;> rfl
  rw [first] at bound ⊢
  simp only [clampLines, Int.toNat_natCast, Prod.mk.injEq, true_and]
  omega

/-- A region that cannot be placed as a whole is left as the region above the first line that cannot
be placed leaves it. -/
theorem indentRegion_of_fault {start : Int} {stop : Option Int}
    (failed : (indenter.indentRegion buffer start stop).outcome = .error fault) :
    ∃ (m : Nat) (columns : List Int), m < buffer.lineCount ∧
      (indenter.indentRegion buffer start (some m)).outcome = .ok columns ∧
      (indenter.indentRegion buffer start (some m)).buffer =
        (indenter.indentRegion buffer start stop).buffer ∧
      (indenter.indentLine (indenter.indentRegion buffer start stop).buffer m).outcome =
        .error fault := by
  obtain ⟨k, columns, before, placed, kept, stops⟩ := indentFrom_of_fault failed
  refine ⟨(clampLines buffer.lineCount start stop).1 + k, columns, clampLines_lt before, ?_, ?_,
    stops⟩
  · rw [indentRegion, clampLines_above before]
    exact placed
  · rw [indentRegion, clampLines_above before]
    exact kept

end Indenter

namespace Buffer

variable {buffer : Buffer}

/-- A call halts at a line that does not fit at a column, and leaves the buffer as it was, or, where
a region was to be placed, as the region above that line leaves it. -/
def Step.HaltsAt (buffer last : Buffer) (column : Int) : Step → Prop
  | setIndentation n columns => last = buffer ∧ columns = column ∧
    ∃ line, buffer.line n = .ok line ∧ buffer.room.holds column line = false
  | indentLine indenter n => last = buffer ∧ indenter.Unfit buffer n.toNat column
  | indentRegion indenter start _ =>
    ∃ (m : Nat) (placed : List Int),
      (indenter.indentRegion buffer start (some m)).outcome = .ok placed ∧
      (indenter.indentRegion buffer start (some m)).buffer = last ∧ indenter.Unfit last m column
  | _ => False

/-- A call that is not refused comes to an answer, unless it halts at a line that does not fit. -/
theorem Step.run_of_not_refusal? (tabs : 1 ≤ buffer.tabWidth) {step : Step}
    (taken : step.refusal? buffer = none) :
    (∃ answer, (step.run buffer).outcome = .ok answer) ∨
      ∃ column, (step.run buffer).outcome = .error (.tooWide column) ∧
        step.HaltsAt buffer (step.run buffer).buffer column := by
  cases step with
  | line n =>
    obtain ⟨m, line, rfl, here⟩ := exists_of_not_outside? taken
    exact Or.inl ⟨.line line, by rw [run, line_of_getElem? here]; rfl⟩
  | indentation n =>
    obtain ⟨m, line, rfl, here⟩ := exists_of_not_outside? taken
    have measured := (indentation_of_getElem? here).trans (measure_of_pos tabs line)
    exact Or.inl ⟨.columns _, by rw [run, measured]; rfl⟩
  | infer indenter n =>
    obtain ⟨m, line, rfl, here⟩ := exists_of_not_outside? taken
    obtain ⟨column, -, event, found⟩ :=
      Indenter.exists_belongs indenter tabs (List.getElem?_eq_some_iff.mp here).1
    exact Or.inl ⟨.columns column, by rw [run, found]; rfl⟩
  | setIndentation n columns =>
    by_cases negative : columns < 0
    · rw [refusal?, if_pos negative] at taken
      cases taken
    rw [refusal?, if_neg negative] at taken
    obtain ⟨m, line, rfl, here⟩ := exists_of_not_outside? taken
    have nonneg := Int.not_lt.mp negative
    cases room : buffer.room.holds columns line with
    | false =>
      rw [run, setIndentation_of_not_holds here nonneg room]
      exact Or.inr ⟨columns, rfl, rfl, rfl, line, line_of_getElem? here, room⟩
    | true =>
      rw [run, setIndentation_of_holds here nonneg room]
      exact Or.inl ⟨.done, rfl⟩
  | indentLine indenter n =>
    obtain ⟨m, line, rfl, here⟩ := exists_of_not_outside? taken
    cases outcome : (indenter.indentLine buffer m).outcome with
    | ok column => exact Or.inl ⟨.columns column, by rw [run, outcome]; rfl⟩
    | error fault =>
      have inside := (List.getElem?_eq_some_iff.mp here).1
      obtain ⟨column, rfl, unfit⟩ := Indenter.unfit_of_indentLine_error tabs inside outcome
      have kept := (Indenter.respaces_indentLine indenter buffer m).buffer_of_error outcome
      exact Or.inr ⟨column, by rw [run, outcome]; rfl, kept, unfit⟩
  | indentRegion indenter start stop =>
    cases outcome : (indenter.indentRegion buffer start stop).outcome with
    | ok columns => exact Or.inl ⟨.region columns, by rw [run, outcome]; rfl⟩
    | error fault =>
      obtain ⟨m, placed, inside, done, kept, stops⟩ := Indenter.indentRegion_of_fault outcome
      have moves := Indenter.reindents_indentFrom indenter buffer
        (Indenter.clampLines buffer.lineCount start stop).1
        (Indenter.clampLines buffer.lineCount start stop).2
      obtain ⟨column, rfl, unfit⟩ := Indenter.unfit_of_indentLine_error
        (moves.tabWidth ▸ tabs) (moves.lineCount ▸ inside) stops
      exact Or.inr ⟨column, by rw [run, outcome]; rfl, m, placed, done, kept, unfit⟩

/-! ## Whole histories -/

/-- The text of a buffer is its lines, and a line feed at the end if the text it was made of ends
with one. -/
theorem Reindents.text_eq {text : Text} {tabWidth : Int} {room : Room}
    (reindents : Reindents (ofText text tabWidth room) buffer) (feed : text.getLast? = some '\n') :
    buffer.text = joinLines buffer.lines ++ ['\n'] := by
  have ends : buffer.finalNewline = true := by
    rw [reindents.finalNewline, ofText, if_pos feed]
  rw [Buffer.text, if_pos ends]

/-- A buffer has the text that it was made of. After any calls it has as many lines as at first, at
least one; they hold no line feeds, and each has kept what stands behind its leading spaces and
tabs; and the line feed at the end of the text is still there. Whatever call comes next, it is
refused if its line is not there or its column is negative, and then it leaves the buffer as it is.
Otherwise it fails only where a line does not fit, and then leaves the buffer as it is as well, or,
if it is to place a region, as the region above that line leaves it. -/
theorem after_keeps (text : Text) {tabWidth : Int} (tabs : 1 ≤ tabWidth) (room : Room)
    (steps : List Step) :
    let first := ofText text tabWidth room
    let last := first.after steps
    first.text = text ∧ last.lineCount = first.lineCount ∧ 1 ≤ last.lineCount ∧
      (∀ line ∈ last.lines, '\n' ∉ line) ∧
      last.lines.map unindented = first.lines.map unindented ∧
      (text.getLast? = some '\n' → last.text = joinLines last.lines ++ ['\n']) ∧
      (∀ (step : Step) (fault : Fault), step.refusal? last = some fault →
        (step.run last).buffer = last ∧
          ∃ why, (step.run last).outcome = .error why ∧ (fault.Writable → why = fault)) ∧
      ∀ step : Step, step.refusal? last = none →
        (∃ answer, (step.run last).outcome = .ok answer) ∨
          ∃ column, (step.run last).outcome = .error (.tooWide column) ∧
            step.HaltsAt last (step.run last).buffer column := by
  intro first last
  have reindents : Reindents first last := reindents_after first steps
  have tabsLast : 1 ≤ last.tabWidth := by
    rw [reindents.tabWidth, tabWidth_ofText]
    exact tabs
  refine ⟨text_ofText text tabWidth room, reindents.lineCount, ?_, ?_, reindents.rests,
    reindents.text_eq, fun step fault => Step.run_of_refusal?,
    fun step => Step.run_of_not_refusal? tabsLast⟩
  · rw [reindents.lineCount]
    exact List.length_pos_of_ne_nil (lines_ofText_ne_nil text tabWidth room)
  · exact reindents.not_mem rfl fun line among => (lines_ofText_spec among).1

/-- Of four calls two are refused, one moves a line that a tab indents, and the region puts both
lines where they belong. A line behind the last one cannot be placed, and nothing happens. -/
theorem after_keeps_refused :
    let text : Text := "\ta:b\n c ;\n".toList
    let first := ofText text 8 .widest
    let last := first.after
      [.setIndentation 0 3, .line 7, .setIndentation 1 (-1), .indentRegion ⟨2⟩ (-4) none]
    let step : Step := .indentLine ⟨2⟩ 2
    (1 : Int) ≤ 8 ∧ last.lines = ["a:b".toList, "  c ;".toList] ∧
      last.lines.map unindented = first.lines.map unindented ∧
      last.text = joinLines last.lines ++ ['\n'] ∧
      (step.run last).outcome = .error (.outside 2 2) ∧ (step.run last).buffer = last := by
  intro text first last step
  have tabs : (1 : Int) ≤ 8 := by decide
  have refused : step.refusal? last = some (.outside 2 2) := by decide +kernel
  obtain ⟨-, -, -, -, rests, ends, refuses, -⟩ := after_keeps text tabs .widest
    [.setIndentation 0 3, .line 7, .setIndentation 1 (-1), .indentRegion ⟨2⟩ (-4) none]
  obtain ⟨kept, why, failed, shown⟩ := refuses step _ refused
  rw [shown (by decide +kernel : isWritable 2 = true)] at failed
  exact ⟨tabs, by decide +kernel, rests, ends (by decide), failed, kept⟩

/-- A level so wide that no text reaches over it: the first line of a region is moved before the
second turns out not to fit, and then stays where it was moved to. -/
theorem indentRegion_moves_and_fails :
    let far : Int := 1000000000000000000000000000000
    let first := ofText " a:b\nc .".toList 8 .widest
    let step : Step := .indentRegion ⟨far⟩ 0 none
    (step.run first).outcome = .error (.tooWide far) ∧
      (step.run first).buffer.text = "a:b\nc .".toList ∧ (step.run first).buffer ≠ first := by
  intro far first step
  have moved : (step.run first).buffer.text = "a:b\nc .".toList := by rfl
  refine ⟨by rfl, moved, fun same => ?_⟩
  rw [same] at moved
  exact absurd moved (by decide)

end Buffer

end TurtleEdit
