import TurtleEdit.Proofs.Placing

/-!
Placing a region once is enough.

A line is settled when it stands where it belongs. Placing a line settles it, and what is done to
the lines below it does not unsettle it, because a line belongs where the lines above it put it. So
after a region is placed all of its lines are settled, and placing a settled line changes nothing:
later calls on these lines, for single lines or for regions, in any order, find nothing to do.
-/

namespace TurtleEdit

namespace Indenter

variable {indenter : Indenter} {buffer other : Buffer} {n : Nat} {column : Int}

/-! ## Settled lines -/

/-- Line `n` stands in the column where it belongs. -/
structure Settled (indenter : Indenter) (buffer : Buffer) (n : Nat) (column : Int) : Prop where
  belongs : indenter.Belongs buffer n column
  stands : buffer.indentation n = .ok column

/-- A settled line stays settled whatever becomes of the lines below it. -/
theorem Settled.of_sameAbove (settled : indenter.Settled buffer n column)
    (tabs : 1 ≤ buffer.tabWidth) (inside : n < buffer.lineCount)
    (same : SameAbove (n + 1) buffer other) : indenter.Settled other n column := by
  obtain ⟨line, here⟩ := Buffer.exists_getElem? inside
  have there : other.lines[n]? = some line := (same.above n (Nat.lt_succ_self n)).trans here
  refine ⟨settled.belongs.of_sameAbove tabs (same.mono (Nat.le_succ n)) here there rfl, ?_⟩
  rw [Buffer.indentation_of_getElem? there, same.tabWidth, ← Buffer.indentation_of_getElem? here]
  exact settled.stands

/-- A line that was placed is settled. -/
theorem settled_replace {line moved : Text} (tabs : 1 ≤ buffer.tabWidth)
    (here : buffer.lines[n]? = some line) (belongs : indenter.Belongs buffer n column)
    (alike : unindented moved = unindented line)
    (measured : measure buffer.tabWidth moved = .ok column) :
    indenter.Settled (buffer.replace n moved) n column := by
  have there := buffer.getElem?_replace moved (List.getElem?_eq_some_iff.mp here).1
  exact ⟨belongs.of_sameAbove tabs (sameAbove_replace buffer n moved) here there alike,
    (Buffer.indentation_of_getElem? there).trans measured⟩

/-- Placing a settled line changes nothing. -/
theorem Settled.indentLine (settled : indenter.Settled buffer n column) :
    (indenter.indentLine buffer n).buffer = buffer ∧
      (indenter.indentLine buffer n).outcome = .ok column := by
  obtain ⟨⟨event, found⟩, stands⟩ := settled
  rw [Indenter.indentLine, found, stands]
  dsimp only
  rw [if_pos rfl]
  exact ⟨rfl, rfl⟩

/-! ## Placing a region -/

/-- The lines from line `n` on are settled in these columns. -/
def SettledFrom (indenter : Indenter) (buffer : Buffer) (n : Nat) (columns : List Int) : Prop :=
  ∀ i c, columns[i]? = some c → indenter.Settled buffer (n + i) c

theorem SettledFrom.cons {columns : List Int} (settled : indenter.Settled buffer n column)
    (below : indenter.SettledFrom buffer (n + 1) columns) :
    indenter.SettledFrom buffer n (column :: columns) := by
  intro i c found
  cases i with
  | zero =>
    rw [List.getElem?_cons_zero, Option.some.injEq] at found
    exact found ▸ settled
  | succ i =>
    have shifted := below i c found
    rwa [Nat.add_right_comm, Nat.add_assoc] at shifted

/-- Line `n` belongs in a column and does not fit there. -/
structure Unfit (indenter : Indenter) (buffer : Buffer) (n : Nat) (column : Int) : Prop where
  belongs : indenter.Belongs buffer n column
  full : ∃ line, buffer.lines[n]? = some line ∧ buffer.fits line column = false

/-- Only a line that does not fit cannot be placed. -/
theorem unfit_of_indentLine_error (tabs : 1 ≤ buffer.tabWidth) (inside : n < buffer.lineCount)
    {fault : Fault} (failed : (indenter.indentLine buffer n).outcome = .error fault) :
    ∃ column, fault = .tooWide column ∧ indenter.Unfit buffer n column := by
  obtain ⟨line, here⟩ := Buffer.exists_getElem? inside
  obtain ⟨column, nonneg, belongs⟩ := exists_belongs indenter tabs inside
  rcases indentLine_spec tabs here belongs nonneg with
    ⟨full, -, stops⟩ | ⟨-, moved, -, -, -, placed⟩
  · exact ⟨column, Except.error.inj (failed.symm.trans stops), belongs, line, here, full⟩
  · exact nomatch failed.symm.trans placed

/-- What ends the placing of lines before its time: line `n` does not fit where it belongs. -/
structure Stuck (indenter : Indenter) (edit : Edit (List Int)) (n : Nat) (column : Int) :
    Prop extends indenter.Unfit edit.buffer n column where
  failed : edit.outcome = .error (.tooWide column)

/-- Lines placed from top to bottom are settled, and the lines above them are not touched; or one of
them does not fit where it belongs. -/
theorem indentFrom_settles (indenter : Indenter) (tabs : 1 ≤ buffer.tabWidth) {count : Nat}
    (inside : ∀ i, i < count → n + i < buffer.lineCount) :
    let edit := indenter.indentFrom buffer n count
    (∃ m c, n ≤ m ∧ m < n + count ∧ indenter.Stuck edit m c) ∨
      ∃ columns, edit.outcome = .ok columns ∧ columns.length = count ∧
        SameAbove n buffer edit.buffer ∧ edit.buffer.lineCount = buffer.lineCount ∧
        indenter.SettledFrom edit.buffer n columns := by
  induction count generalizing buffer n with
  | zero =>
    refine Or.inr ⟨[], rfl, rfl, ⟨rfl, fun _ _ => rfl⟩, rfl, fun i c found => ?_⟩
    rw [List.getElem?_nil] at found
    cases found
  | succ count ih =>
    have first : n < buffer.lineCount := inside 0 (Nat.succ_pos count)
    obtain ⟨line, here⟩ := Buffer.exists_getElem? first
    obtain ⟨column, nonneg, belongs⟩ := exists_belongs indenter tabs first
    intro edit
    rcases indentLine_spec tabs here belongs nonneg with
      ⟨full, kept, failed⟩ | ⟨-, moved, alike, measured, replaced, placed⟩
    · obtain ⟨left, fault⟩ := indentFrom_of_error failed count
      have same : edit.buffer = buffer := left.trans kept
      refine Or.inl ⟨n, column, Nat.le_refl n, by omega, ?_, fault⟩
      rw [same]
      exact ⟨belongs, line, here, full⟩
    · obtain ⟨left, outcome⟩ := indentFrom_of_ok placed replaced count
      have tabs' : 1 ≤ (buffer.replace n moved).tabWidth := tabs
      have first' : n < (buffer.replace n moved).lineCount := by
        rw [Buffer.lineCount_replace]
        exact first
      have inside' : ∀ i, i < count → n + 1 + i < (buffer.replace n moved).lineCount := by
        intro i before
        have := inside (i + 1) (Nat.succ_lt_succ before)
        rw [Buffer.lineCount_replace]
        omega
      rcases ih tabs' inside' with
        ⟨m, c, low, high, stuck⟩ | ⟨columns, done, size, same, kept, settled⟩
      · refine Or.inl ⟨m, c, by omega, by omega, left ▸ stuck.toUnfit, ?_⟩
        rw [outcome, stuck.failed]
        rfl
      · have here' := settled_replace tabs here belongs alike measured
        rw [← left] at same kept settled
        refine Or.inr ⟨column :: columns, ?_, by rw [List.length_cons, size], ?_, ?_, ?_⟩
        · rw [outcome, done]
          rfl
        · exact (sameAbove_replace buffer n moved).trans (same.mono (Nat.le_succ n))
        · rw [kept, Buffer.lineCount_replace]
        · exact .cons (here'.of_sameAbove tabs' first' same) settled

/-- A part of settled lines is settled. -/
theorem SettledFrom.part {columns : List Int} (settled : indenter.SettledFrom buffer n columns)
    {m : Nat} (later : n ≤ m) (count : Nat) :
    indenter.SettledFrom buffer m ((columns.drop (m - n)).take count) := by
  intro i c found
  rw [List.getElem?_take] at found
  split at found
  next =>
    rw [List.getElem?_drop] at found
    have here := settled _ c found
    rwa [← Nat.add_assoc, Nat.add_sub_cancel' later] at here
  next => cases found

/-- Placing settled lines changes nothing. -/
theorem SettledFrom.indentFrom {columns : List Int}
    (settled : indenter.SettledFrom buffer n columns) :
    (indenter.indentFrom buffer n columns.length).buffer = buffer ∧
      (indenter.indentFrom buffer n columns.length).outcome = .ok columns := by
  induction columns generalizing n with
  | nil => exact ⟨rfl, rfl⟩
  | cons column columns ih =>
    obtain ⟨kept, placed⟩ := (settled 0 column rfl).indentLine
    have settledBelow : indenter.SettledFrom buffer (n + 1) columns := fun i c found => by
      rw [Nat.add_right_comm]
      exact settled (i + 1) c found
    obtain ⟨keptBelow, placedBelow⟩ := ih settledBelow
    rw [Nat.add_zero] at kept placed
    obtain ⟨left, outcome⟩ := indentFrom_of_ok placed kept columns.length
    rw [List.length_cons, left, outcome, placedBelow]
    exact ⟨keptBelow, rfl⟩

/-! ## Later calls -/

/-- A call that places lines: one line, or a region. -/
inductive Call where
  | line (n : Nat)
  | region (start : Int) (stop : Option Int)
  deriving DecidableEq, Repr

namespace Call

/-- The first of the lines that a call places in a buffer of `lineCount` lines, and their number. -/
def lines (lineCount : Nat) : Call → Nat × Nat
  | .line n => (n, 1)
  | .region start stop => clampLines lineCount start stop

/-- All lines of the call are among `count` lines from line `first` on. -/
def Within (lineCount first count : Nat) (call : Call) : Prop :=
  ∀ n, (call.lines lineCount).1 ≤ n → n < (call.lines lineCount).1 + (call.lines lineCount).2 →
    first ≤ n ∧ n < first + count

/-- Carries out a call. The column of a single line is reported as a list, too. -/
def run (indenter : Indenter) (buffer : Buffer) : Call → Edit (List Int)
  | .line n =>
    let edit := indenter.indentLine buffer n
    ⟨edit.buffer, edit.events, edit.outcome.map fun column => [column]⟩
  | .region start stop => indenter.indentRegion buffer start stop

/-- Either kind of call places its lines from top to bottom. -/
theorem run_eq_indentFrom (indenter : Indenter) (buffer : Buffer) (call : Call) :
    let lines := call.lines buffer.lineCount
    (call.run indenter buffer).buffer = (indenter.indentFrom buffer lines.1 lines.2).buffer ∧
      (call.run indenter buffer).outcome =
        (indenter.indentFrom buffer lines.1 lines.2).outcome := by
  cases call with
  | region start stop => exact ⟨rfl, rfl⟩
  | line n =>
    cases outcome : (indenter.indentLine buffer n).outcome with
    | error fault =>
      obtain ⟨left, failed⟩ := indentFrom_of_error outcome 0
      exact ⟨left.symm, by rw [run, outcome]; exact failed.symm⟩
    | ok column =>
      obtain ⟨left, placed⟩ := indentFrom_of_ok outcome rfl 0
      exact ⟨left.symm, by rw [run, outcome]; exact placed.symm⟩

/-- Of the columns of the lines from line `first` on, those of the lines of a call. -/
def part (lineCount first : Nat) (columns : List Int) (call : Call) : List Int :=
  (columns.drop ((call.lines lineCount).1 - first)).take (call.lines lineCount).2

/-- A call on settled lines changes nothing and reports their columns. -/
theorem run_of_settledFrom {first : Nat} {columns : List Int}
    (settled : indenter.SettledFrom buffer first columns) {call : Call}
    (within : call.Within buffer.lineCount first columns.length) :
    (call.run indenter buffer).buffer = buffer ∧
      (call.run indenter buffer).outcome = .ok (call.part buffer.lineCount first columns) := by
  obtain ⟨left, outcome⟩ := run_eq_indentFrom indenter buffer call
  rw [left, outcome]
  unfold Within at within
  unfold part
  generalize call.lines buffer.lineCount = lines at within
  obtain ⟨low, count⟩ := lines
  dsimp only at within ⊢
  cases count with
  | zero => exact ⟨rfl, rfl⟩
  | succ count =>
    have atFirst := within low (Nat.le_refl low) (by omega)
    have atLast := within (low + count) (by omega) (by omega)
    have size : ((columns.drop (low - first)).take (count + 1)).length = count + 1 := by
      rw [List.length_take, List.length_drop]
      omega
    have unchanged := (settled.part atFirst.1 (count + 1)).indentFrom
    rwa [size] at unchanged

end Call

/-- Carries out calls one after the other; a call that fails leaves its buffer to the next. -/
def replay (indenter : Indenter) (buffer : Buffer) :
    List Call → Buffer × List (Except Fault (List Int))
  | [] => (buffer, [])
  | call :: rest =>
    let edit := call.run indenter buffer
    let later := indenter.replay edit.buffer rest
    (later.1, edit.outcome :: later.2)

/-- Calls on settled lines, in any order, change nothing and report their columns. -/
theorem replay_of_settledFrom {first : Nat} {columns : List Int}
    (settled : indenter.SettledFrom buffer first columns) {calls : List Call}
    (within : ∀ call ∈ calls, call.Within buffer.lineCount first columns.length) :
    indenter.replay buffer calls =
      (buffer, calls.map fun call => .ok (call.part buffer.lineCount first columns)) := by
  induction calls with
  | nil => rfl
  | cons call rest ih =>
    obtain ⟨kept, reported⟩ := Call.run_of_settledFrom settled (within call List.mem_cons_self)
    rw [replay, kept, reported, ih fun later member => within later (List.mem_cons_of_mem _ member)]
    rfl

theorem clampLines_lt {lineCount : Nat} {start : Int} {stop : Option Int} {i : Nat}
    (inside : i < (clampLines lineCount start stop).2) :
    (clampLines lineCount start stop).1 + i < lineCount := by
  cases stop with
  | none =>
    simp only [clampLines] at inside ⊢
    omega
  | some stop =>
    simp only [clampLines] at inside ⊢
    omega

/-- The lines of a region that was placed stand in the columns reported for them. -/
theorem indentRegion_stands (tabs : 1 ≤ buffer.tabWidth) {start : Int} {stop : Option Int}
    {columns : List Int} (placed : (indenter.indentRegion buffer start stop).outcome = .ok columns)
    {i : Nat} (found : columns[i]? = some column) :
    (indenter.indentRegion buffer start stop).buffer.indentation
      ((clampLines buffer.lineCount start stop).1 + i : Nat) = .ok column := by
  rcases indentFrom_settles indenter tabs (fun i inside => clampLines_lt inside) with
    ⟨m, c, -, -, stuck⟩ | ⟨others, done, -, -, -, settled⟩
  · exact nomatch stuck.failed.symm.trans placed
  · obtain rfl : others = columns := Except.ok.inj (done.symm.trans placed)
    exact (settled i column found).stands

theorem indentAll_stands (tabs : 1 ≤ buffer.tabWidth) {columns : List Int}
    (placed : (indenter.indentRegion buffer 0 none).outcome = .ok columns)
    (found : columns[n]? = some column) :
    (indenter.indentRegion buffer 0 none).buffer.indentation n = .ok column := by
  have stands := indentRegion_stands tabs placed found
  rwa [show (clampLines buffer.lineCount 0 none).1 + n = n from Nat.zero_add n] at stands

/-- Placing a region gives columns from the first one on, unless a line does not fit where it
belongs. -/
theorem indentRegion_returns (indenter : Indenter) (tabs : 1 ≤ buffer.tabWidth) (start : Int)
    (stop : Option Int) :
    let edit := indenter.indentRegion buffer start stop
    (∃ columns, edit.outcome = .ok columns ∧ ∀ c ∈ columns, 0 ≤ c) ∨
      ∃ n c, indenter.Stuck edit n c := by
  intro edit
  rcases indentFrom_settles indenter tabs (fun i inside => clampLines_lt inside) with
    ⟨m, c, -, -, stuck⟩ | ⟨columns, done, size, same, kept, settled⟩
  · exact Or.inr ⟨m, c, stuck⟩
  · refine Or.inl ⟨columns, done, fun c member => ?_⟩
    obtain ⟨i, inside, rfl⟩ := List.mem_iff_getElem.mp member
    have here := settled i _ (List.getElem?_eq_getElem inside)
    refine here.belongs.nonneg (same.tabWidth ▸ tabs) ?_
    rw [kept]
    exact clampLines_lt (size ▸ inside)

theorem Belongs.map_columns (belongs : indenter.Belongs buffer n column) :
    (indenter.infer buffer n).map (·.columns) = .ok column := by
  obtain ⟨event, found⟩ := belongs
  rw [found]
  rfl

/-- Placing a region settles it. Unless one of its lines does not fit where it belongs, every line
of the region then stands where it belongs, in the column reported for it, and later calls on lines
of the region leave the buffer as it is and report the same columns. -/
theorem indentRegion_reaches_fixedPoint (indenter : Indenter) (buffer : Buffer)
    (tabs : 1 ≤ buffer.tabWidth) (start : Int) (stop : Option Int) :
    let first := (clampLines buffer.lineCount start stop).1
    let count := (clampLines buffer.lineCount start stop).2
    let edit := indenter.indentRegion buffer start stop
    (∃ n c, first ≤ n ∧ n < first + count ∧ indenter.Stuck edit n c) ∨
      ∃ columns, edit.outcome = .ok columns ∧ columns.length = count ∧
        (∀ n, first ≤ n → n < first + count → ∃ c, columns[n - first]? = some c ∧
          (indenter.infer edit.buffer (n : Nat)).map (·.columns) = .ok c ∧
          edit.buffer.indentation (n : Nat) = .ok c) ∧
        ∀ calls : List Call,
          (∀ call ∈ calls, call.Within edit.buffer.lineCount first count) →
          indenter.replay edit.buffer calls =
            (edit.buffer, calls.map fun call =>
              .ok (call.part edit.buffer.lineCount first columns)) := by
  intro first count edit
  rcases indentFrom_settles indenter tabs (fun i inside => clampLines_lt inside) with
    ⟨m, c, low, high, stuck⟩ | ⟨columns, done, size, -, -, settled⟩
  · exact Or.inl ⟨m, c, low, high, stuck⟩
  · refine Or.inr ⟨columns, done, size, fun n low high => ?_, fun calls within => ?_⟩
    · have inside : n - first < columns.length := by omega
      have here := settled (n - first) _ (List.getElem?_eq_getElem inside)
      rw [Nat.add_sub_cancel' low] at here
      exact ⟨_, List.getElem?_eq_getElem inside, here.belongs.map_columns, here.stands⟩
    · refine replay_of_settledFrom settled ?_
      rw [size]
      exact within

/-- A region below a line indented by a tab: its first line, indented by spaces and a tab, already
measures right and keeps its tab; the second is moved. Then two calls, one of them for a line, find
nothing to do. -/
theorem indentRegion_reaches_fixedPoint_twice :
    let indenter : Indenter := ⟨2⟩
    let buffer : Buffer :=
      ⟨["\ta".toList, "  \tb [".toList, "c ;".toList, "] .".toList], 8, true, .widest⟩
    let edit := indenter.indentRegion buffer 1 (some 3)
    edit.outcome.toOption = some [8, 10] ∧
      edit.buffer.lines = ["\ta".toList, "  \tb [".toList, "          c ;".toList, "] .".toList] ∧
      indenter.replay edit.buffer [.line 2, .region 1 (some 3)] =
        (edit.buffer, [.ok [10], .ok [8, 10]]) := by
  intro indenter buffer edit
  have placed : edit.outcome.toOption = some [8, 10] := by decide +kernel
  refine ⟨placed, by decide +kernel, ?_⟩
  rcases indentRegion_reaches_fixedPoint indenter buffer (by decide) 1 (some 3) with
    ⟨n, c, -, -, stuck⟩ | ⟨columns, done, -, -, stable⟩
  · rw [stuck.failed] at placed
    cases placed
  · rw [done] at placed
    obtain rfl : columns = [8, 10] := Option.some.inj placed
    have size : (indenter.indentRegion buffer 1 (some 3)).buffer.lineCount = 4 := by
      decide +kernel
    rw [size] at stable
    refine stable [.line 2, .region 1 (some 3)] (List.forall_mem_cons.mpr ⟨?_, ?_⟩)
    · exact fun n low high => ⟨Nat.le_of_succ_le low, high⟩
    · exact List.forall_mem_singleton.mpr fun n low high => ⟨low, high⟩

/-- A level so wide that no text reaches over it: the line below the header cannot be placed, so
that it stands elsewhere than where it belongs. -/
theorem indentRegion_stops_below_header :
    let far : Int := 1000000000000000000000000000000
    let indenter : Indenter := ⟨far⟩
    let buffer : Buffer := ⟨["a:b".toList, "c ;".toList], 8, true, .widest⟩
    let edit := indenter.indentRegion buffer 0 none
    edit.outcome = .error (.tooWide far) ∧
      (indenter.infer edit.buffer 1).map (·.columns) = .ok far ∧
      edit.buffer.indentation 1 = .ok 0 := by
  intro far indenter buffer edit
  exact ⟨by rfl, by rfl, by rfl⟩

end Indenter

end TurtleEdit
