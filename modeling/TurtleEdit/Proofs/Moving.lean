import TurtleEdit.Proofs.Reloading

/-!
What placing a region changes, and what it reports of that.

A line that measures right is left as it is, tabs and all; any other line gets as many spaces as it
should have. So a placed line keeps what stands behind its leading spaces and tabs, and it is
changed exactly if it measured something else when its turn came. Every change is reported, and
nothing else is reported as one.

Placing a line touches no other line. So the lines outside a region stay as they are, and when the
turn of a line of the region comes, it still has the text that it had at first.
-/

namespace TurtleEdit

/-! ## Moved lines -/

/-- The line and the columns, if an event tells that a line was moved. -/
def Event.moved? : Event → Option (Int × Int)
  | reindented line columns => some (line, columns)
  | _ => none

/-- What events tell of moved lines. -/
def movesOf (events : List Event) : List (Int × Int) := events.filterMap Event.moved?

theorem movesOf_append (events others : List Event) :
    movesOf (events ++ others) = movesOf events ++ movesOf others := List.filterMap_append

/-- A line at a column: as it is if it measures that, else behind as many spaces. -/
def movedTo (tabWidth : Int) (line : Text) (column : Int) : Text :=
  if columnsOf tabWidth (leading line) = column then line
  else List.replicate column.toNat ' ' ++ unindented line

section Moved

variable {tabWidth column : Int}

theorem unindented_movedTo (tabWidth : Int) (line : Text) (column : Int) :
    unindented (movedTo tabWidth line column) = unindented line := by
  unfold movedTo
  split
  · rfl
  · exact (indents_replicate _).unindented_append line

theorem measure_movedTo (tabs : 1 ≤ tabWidth) (line : Text) (nonneg : 0 ≤ column) :
    measure tabWidth (movedTo tabWidth line column) = .ok column := by
  unfold movedTo
  split
  · next agrees => rw [measure_of_pos tabs, agrees]
  · rw [measure_replicate_append, Int.toNat_of_nonneg nonneg]

/-- A line is changed exactly if it measured something else. -/
theorem movedTo_ne_iff (tabs : 1 ≤ tabWidth) (line : Text) (nonneg : 0 ≤ column) :
    movedTo tabWidth line column ≠ line ↔ columnsOf tabWidth (leading line) ≠ column := by
  constructor
  · intro changed agrees
    exact changed (if_pos agrees)
  · intro differs same
    have measured := measure_movedTo tabs line nonneg
    rw [same, measure_of_pos tabs] at measured
    exact differs (Except.ok.inj measured)

end Moved

/-! ## Lines that are not touched -/

namespace Indenter

variable {indenter : Indenter} {buffer : Buffer} {n : Nat} {line : Text} {column : Int}
  {columns : List Int}

/-- Placing lines from top to bottom, as far as it goes, touches no line outside them. -/
theorem getElem?_indentFrom_of_outside (indenter : Indenter) (buffer : Buffer) {count m : Nat}
    (outside : m < n ∨ n + count ≤ m) :
    (indenter.indentFrom buffer n count).buffer.lines[m]? = buffer.lines[m]? := by
  apply indentFrom_keeps (fun buffer other => other.lines[m]? = buffer.lines[m]?) (fun _ => rfl)
    (fun first second => second.trans first)
  intro buffer k low high
  exact (respaces_indentLine indenter buffer k).getElem?_of_ne (by omega)

/-! ## Moving one line -/

/-- Finding where a line belongs is not reported as a move. -/
theorem movesOf_infer {placement : Placement}
    (found : indenter.infer buffer n = .ok placement) : movesOf placement.event.toList = [] := by
  obtain ⟨current, -, found⟩ := bind_eq_ok_iff.mp found
  split at found
  · cases found
    rfl
  · split at found
    · obtain ⟨above, -, found⟩ := bind_eq_ok_iff.mp found
      cases found
      rfl
    · obtain ⟨shaped, -, found⟩ := bind_eq_ok_iff.mp found
      obtain ⟨above, -, found⟩ := bind_eq_ok_iff.mp found
      cases found
      rfl

/-- A line that is placed is moved to its column, and the move is reported if it changes the
line. -/
theorem indentLine_moves (tabs : 1 ≤ buffer.tabWidth) (here : buffer.lines[n]? = some line)
    (placed : (indenter.indentLine buffer n).outcome = .ok column) :
    0 ≤ column ∧
      (indenter.indentLine buffer n).buffer =
        buffer.replace n (movedTo buffer.tabWidth line column) ∧
      movesOf (indenter.indentLine buffer n).events =
        if columnsOf buffer.tabWidth (leading line) = column then []
        else [((n : Int), column)] := by
  obtain ⟨found, nonneg, event, infers⟩ :=
    exists_belongs indenter tabs (List.getElem?_eq_some_iff.mp here).1
  have quiet := movesOf_infer infers
  have measured := (Buffer.indentation_of_getElem? here).trans (measure_of_pos tabs line)
  rw [indentLine, infers, measured] at placed ⊢
  dsimp only at placed quiet ⊢
  by_cases agrees : found = columnsOf buffer.tabWidth (leading line)
  · rw [if_pos agrees] at placed ⊢
    obtain rfl := Except.ok.inj placed
    rw [if_pos agrees.symm, movedTo, if_pos agrees.symm, Buffer.replace_self here]
    exact ⟨nonneg, rfl, quiet⟩
  · rw [if_neg agrees] at placed ⊢
    cases room : buffer.room.holds found line with
    | false =>
      rw [Buffer.setIndentation_of_not_holds here nonneg room] at placed
      cases placed
    | true =>
      rw [Buffer.setIndentation_of_holds here nonneg room] at placed ⊢
      obtain rfl := Except.ok.inj placed
      rw [if_neg (Ne.symm agrees), movedTo, if_neg (Ne.symm agrees), movesOf_append, quiet]
      exact ⟨nonneg, rfl, rfl⟩

/-! ## Moving lines from top to bottom -/

/-- What it means that lines, from line `n` on, were placed in these columns: each is moved to its
column, and the moves that change a line are reported, in order. -/
structure MovedFrom (buffer : Buffer) (n : Nat) (columns : List Int) (edit : Edit (List Int)) :
    Prop where
  nonneg : ∀ c ∈ columns, 0 ≤ c
  moved : ∀ i c, columns[i]? = some c → ∃ line, buffer.lines[n + i]? = some line ∧
    edit.buffer.lines[n + i]? = some (movedTo buffer.tabWidth line c)
  ordered : (movesOf edit.events).Pairwise fun a b => a.1 < b.1
  reported : ∀ m c, (m, c) ∈ movesOf edit.events ↔
    ∃ i, m = (n + i : Nat) ∧ columns[i]? = some c ∧
      ∃ line, buffer.lines[n + i]? = some line ∧ columnsOf buffer.tabWidth (leading line) ≠ c

theorem movedFrom_nil (buffer : Buffer) (n : Nat) : MovedFrom buffer n [] ⟨buffer, [], .ok []⟩ where
  nonneg := List.forall_mem_nil _
  moved i c found := nomatch found
  ordered := List.Pairwise.nil
  reported m c := by
    constructor
    · exact fun member => nomatch member
    · rintro ⟨i, -, found, -⟩
      cases found

/-- A line is moved, and then the lines below it. -/
theorem MovedFrom.cons {first : Edit Int} {rest : Edit (List Int)}
    {outcome : Except Fault (List Int)}
    (here : buffer.lines[n]? = some line) (nonneg : 0 ≤ column)
    (left : first.buffer = buffer.replace n (movedTo buffer.tabWidth line column))
    (told : movesOf first.events =
      if columnsOf buffer.tabWidth (leading line) = column then [] else [((n : Int), column)])
    (kept : rest.buffer.lines[n]? = first.buffer.lines[n]?)
    (below : MovedFrom first.buffer (n + 1) columns rest) :
    MovedFrom buffer n (column :: columns)
      ⟨rest.buffer, first.events ++ rest.events, outcome⟩ := by
  have inside := (List.getElem?_eq_some_iff.mp here).1
  have shifted : ∀ i, n + 1 + i = n + (i + 1) := fun i => by omega
  have untouched : ∀ i, first.buffer.lines[n + (i + 1)]? = buffer.lines[n + (i + 1)]? := fun i => by
    rw [left, Buffer.getElem?_replace_of_ne buffer _ (by omega)]
  have width : first.buffer.tabWidth = buffer.tabWidth := by rw [left]; rfl
  have later : ∀ {m c}, (m, c) ∈ movesOf rest.events ↔
      ∃ i, m = (n + (i + 1) : Nat) ∧ columns[i]? = some c ∧
        ∃ line, buffer.lines[n + (i + 1)]? = some line ∧
          columnsOf buffer.tabWidth (leading line) ≠ c := fun {m c} => by
    rw [below.reported]
    simp only [shifted, untouched, width]
  refine ⟨List.forall_mem_cons.mpr ⟨nonneg, below.nonneg⟩, fun i c found => ?_, ?_, fun m c => ?_⟩
  · cases i with
    | zero =>
      cases found
      exact ⟨line, here, by rw [Nat.add_zero, kept, left, buffer.getElem?_replace _ inside]⟩
    | succ i =>
      obtain ⟨old, there, stands⟩ := below.moved i c found
      rw [shifted] at there stands
      rw [untouched] at there
      rw [width] at stands
      exact ⟨old, there, stands⟩
  · rw [movesOf_append, told]
    split
    · exact below.ordered
    · refine List.pairwise_cons.mpr ⟨fun move member => ?_, below.ordered⟩
      obtain ⟨i, lower, -⟩ := later.mp member
      rw [lower]
      dsimp only
      omega
  · rw [movesOf_append, List.mem_append, told, later]
    constructor
    · rintro (atOnce | ⟨i, rfl, found, changed⟩)
      · split at atOnce
        · cases atOnce
        · next differs =>
          obtain ⟨rfl, rfl⟩ := Prod.mk.inj (List.mem_singleton.mp atOnce)
          exact ⟨0, rfl, rfl, line, here, differs⟩
      · exact ⟨i + 1, rfl, found, changed⟩
    · rintro ⟨i, rfl, found, old, there, differs⟩
      cases i with
      | zero =>
        cases found
        obtain rfl : line = old := Option.some.inj (here.symm.trans there)
        exact Or.inl (by rw [if_neg differs]; exact List.mem_singleton_self _)
      | succ i => exact Or.inr ⟨i, rfl, found, old, there, differs⟩

/-- Lines that are placed from top to bottom are moved to their columns. -/
theorem movedFrom_indentFrom (tabs : 1 ≤ buffer.tabWidth) {count : Nat}
    (inside : ∀ i, i < count → n + i < buffer.lineCount)
    (placed : (indenter.indentFrom buffer n count).outcome = .ok columns) :
    MovedFrom buffer n columns (indenter.indentFrom buffer n count) := by
  induction count generalizing buffer n columns with
  | zero =>
    obtain rfl := Except.ok.inj placed
    exact movedFrom_nil buffer n
  | succ count ih =>
    obtain ⟨line, here⟩ := Buffer.exists_getElem? (inside 0 (Nat.succ_pos count))
    cases first : (indenter.indentLine buffer n).outcome with
    | error fault => exact nomatch (indentFrom_of_error first count).2.symm.trans placed
    | ok column =>
      obtain ⟨nonneg, left, told⟩ := indentLine_moves tabs here first
      have moves := reindents_indentLine indenter buffer n
      rw [(indentFrom_of_ok first rfl count).2] at placed
      obtain ⟨later, done, rfl⟩ := map_eq_ok_iff.mp placed
      have below := ih (moves.tabWidth ▸ tabs)
        (fun i before => by
          have := inside (i + 1) (Nat.succ_lt_succ before)
          rw [moves.lineCount]
          omega) done
      have kept := getElem?_indentFrom_of_outside indenter (indenter.indentLine buffer n).buffer
        (show n < n + 1 ∨ n + 1 + count ≤ n from Or.inl (Nat.lt_succ_self n))
      rw [indentFrom, first]
      exact .cons here nonneg left told kept below

/-- What became of a line that was moved to its column. -/
theorem MovedFrom.exists_line {edit : Edit (List Int)} (moved : MovedFrom buffer n columns edit)
    (tabs : 1 ≤ buffer.tabWidth) (width : edit.buffer.tabWidth = buffer.tabWidth) {i : Nat}
    (found : columns[i]? = some column) :
    0 ≤ column ∧ ∃ old new, buffer.lines[n + i]? = some old ∧
      edit.buffer.lines[n + i]? = some new ∧
      edit.buffer.indentation (n + i : Nat) = .ok column ∧ unindented new = unindented old ∧
      (new ≠ old ↔ columnsOf buffer.tabWidth (leading old) ≠ column) := by
  have nonneg := moved.nonneg column (List.mem_of_getElem? found)
  obtain ⟨old, here, there⟩ := moved.moved i column found
  have stands : edit.buffer.indentation (n + i : Nat) = .ok column := by
    rw [Buffer.indentation_of_getElem? there, width]
    exact measure_movedTo tabs old nonneg
  exact ⟨nonneg, old, _, here, there, stands, unindented_movedTo _ old _,
    movedTo_ne_iff tabs old nonneg⟩

/-- The reported moves are those of the changed lines. -/
theorem MovedFrom.mem_movesOf_iff {edit : Edit (List Int)} (moved : MovedFrom buffer n columns edit)
    (tabs : 1 ≤ buffer.tabWidth) (m c : Int) :
    (m, c) ∈ movesOf edit.events ↔ ∃ i, m = (n + i : Nat) ∧ columns[i]? = some c ∧
      edit.buffer.lines[n + i]? ≠ buffer.lines[n + i]? := by
  rw [moved.reported]
  refine exists_congr fun i => and_congr_right fun _ => and_congr_right fun found => ?_
  have nonneg := moved.nonneg c (List.mem_of_getElem? found)
  obtain ⟨old, here, there⟩ := moved.moved i c found
  rw [here, there, Ne, Option.some_inj, ← Ne, movedTo_ne_iff tabs old nonneg]
  constructor
  · rintro ⟨line, same, differs⟩
    rwa [Option.some.inj same]
  · exact fun differs => ⟨old, rfl, differs⟩

/-! ## Moving a region -/

/-- The lines of a region: from its start, or the first line, up to its stop or the last line. -/
theorem clampLines_iff (lineCount : Nat) (start : Int) (stop : Option Int) (n : Nat) :
    (clampLines lineCount start stop).1 ≤ n ∧
        n < (clampLines lineCount start stop).1 + (clampLines lineCount start stop).2 ↔
      max 0 start ≤ n ∧ n < stop.elim (lineCount : Int) (min · lineCount) := by
  cases stop with
  | none =>
    simp only [clampLines, Option.elim_none]
    omega
  | some stop =>
    simp only [clampLines, Option.elim_some]
    omega

theorem length_clampLines (lineCount : Nat) (start : Int) (stop : Option Int) :
    ((clampLines lineCount start stop).2 : Int) =
      max 0 (stop.elim (lineCount : Int) (min · lineCount) - max 0 start) := by
  cases stop with
  | none =>
    simp only [clampLines, Option.elim_none]
    omega
  | some stop =>
    simp only [clampLines, Option.elim_some]
    omega

/-- When the turn of a line of a region comes, the line is as it was at first. -/
theorem indentRegion_turn (indenter : Indenter) (start : Int)
    (here : buffer.lines[n]? = some line) :
    let turn := (indenter.indentRegion buffer start (some n)).buffer
    turn.lines[n]? = some line ∧ turn.indentation n = measure buffer.tabWidth line := by
  intro turn
  have outside : n < (clampLines buffer.lineCount start (some n)).1 ∨
      (clampLines buffer.lineCount start (some n)).1 +
        (clampLines buffer.lineCount start (some n)).2 ≤ n := by
    by_contra inside
    have bounds := (clampLines_iff buffer.lineCount start (some n) n).mp (by omega)
    simp only [Option.elim_some] at bounds
    omega
  have there : turn.lines[n]? = some line :=
    (getElem?_indentFrom_of_outside indenter buffer outside).trans here
  have width : turn.tabWidth = buffer.tabWidth :=
    (reindents_indentFrom indenter buffer _ _).tabWidth
  exact ⟨there, by rw [Buffer.indentation_of_getElem? there, width]⟩

/-- Placing a region touches no line outside it. Unless one of its lines does not fit where it
belongs, it gives one column for each line of the region and none for any other, and the line then
measures that column and keeps what stood behind its leading spaces and tabs. A line is changed
exactly if it measured something else when its turn came, and the reported moves are those of the
changed lines to their columns, from top to bottom. -/
theorem indentRegion_confined (indenter : Indenter) (buffer : Buffer)
    (tabs : 1 ≤ buffer.tabWidth) (start : Int) (stop : Option Int) :
    let low := max 0 start
    let high := stop.elim (buffer.lineCount : Int) (min · buffer.lineCount)
    let edit := indenter.indentRegion buffer start stop
    (∀ n : Nat, n < low ∨ high ≤ n → edit.buffer.lines[n]? = buffer.lines[n]?) ∧
      ((∃ (n : Nat) (c : Int), low ≤ n ∧ n < high ∧ indenter.Stuck edit n c) ∨
        ∃ columns, edit.outcome = .ok columns ∧ (columns.length : Int) = max 0 (high - low) ∧
          (∀ n : Nat, low ≤ n → n < high → ∃ c old new,
            let turn := (indenter.indentRegion buffer start (some n)).buffer
            columns[n - low.toNat]? = some c ∧ 0 ≤ c ∧
              buffer.lines[n]? = some old ∧ turn.lines[n]? = some old ∧
              edit.buffer.lines[n]? = some new ∧ edit.buffer.indentation n = .ok c ∧
              unindented new = unindented old ∧ (new ≠ old ↔ turn.indentation n ≠ .ok c)) ∧
          (movesOf edit.events).Pairwise (fun a b => a.1 < b.1) ∧
          ∀ m c, (m, c) ∈ movesOf edit.events ↔
            ∃ n : Nat, m = n ∧ low ≤ n ∧ columns[n - low.toNat]? = some c ∧
              edit.buffer.lines[n]? ≠ buffer.lines[n]?) := by
  intro low high edit
  have region := clampLines_iff buffer.lineCount start stop
  have first : low.toNat = (clampLines buffer.lineCount start stop).1 := by
    simp only [low, clampLines]
    omega
  refine ⟨fun n outside => getElem?_indentFrom_of_outside indenter buffer ?_, ?_⟩
  · by_contra within
    have bounds := (region n).mp (by omega)
    omega
  rcases indentFrom_settles indenter tabs (fun i inside => clampLines_lt inside) with
    ⟨n, c, above, below, stuck⟩ | ⟨columns, done, size, -, -, -⟩
  · obtain ⟨atLow, atHigh⟩ := (region n).mp ⟨above, below⟩
    exact Or.inl ⟨n, c, atLow, atHigh, stuck⟩
  have moves : MovedFrom buffer low.toNat columns edit := by
    rw [first]
    exact movedFrom_indentFrom tabs (fun i inside => clampLines_lt inside) done
  have width : edit.buffer.tabWidth = buffer.tabWidth :=
    (reindents_indentFrom indenter buffer _ _).tabWidth
  rw [← first] at region
  refine Or.inr ⟨columns, done, ?_, fun n atLow atHigh => ?_, moves.ordered, fun m c => ?_⟩
  · rw [size]
    exact length_clampLines buffer.lineCount start stop
  · obtain ⟨i, rfl⟩ : ∃ i, n = low.toNat + i := ⟨n - low.toNat, by omega⟩
    have inside := ((region (low.toNat + i)).mpr ⟨atLow, atHigh⟩).2
    have found := List.getElem?_eq_getElem (show i < columns.length by omega)
    obtain ⟨nonneg, old, new, here, there, stands, same, changed⟩ :=
      moves.exists_line tabs width found
    obtain ⟨atTurn, measured⟩ := indentRegion_turn indenter start here
    refine ⟨columns[i], old, new, by rwa [Nat.add_sub_cancel_left], nonneg, here, atTurn, there,
      stands, same, ?_⟩
    rw [changed, measured, measure_of_pos tabs]
    simp only [ne_eq, Except.ok.injEq]
  · rw [moves.mem_movesOf_iff tabs]
    constructor
    · rintro ⟨i, rfl, found, changed⟩
      exact ⟨low.toNat + i, rfl, by omega, by rwa [Nat.add_sub_cancel_left], changed⟩
    · rintro ⟨n, rfl, atLow, found, changed⟩
      obtain ⟨i, rfl⟩ : ∃ i, n = low.toNat + i := ⟨n - low.toNat, by omega⟩
      rw [Nat.add_sub_cancel_left] at found
      exact ⟨i, rfl, found, changed⟩

/-- In a region of two lines the first, which begins with spaces and a tab, already measures right:
it keeps them and is not reported. The second is moved. The lines around the region stay. -/
theorem indentRegion_confined_tab :
    let indenter : Indenter := ⟨2⟩
    let buffer : Buffer :=
      ⟨["\ta".toList, "  \tb [".toList, "c ;".toList, "] .".toList], 8, true, .widest⟩
    let edit := indenter.indentRegion buffer 1 (some 3)
    1 ≤ buffer.tabWidth ∧ edit.outcome.toOption = some [8, 10] ∧
      edit.buffer.lines[0]? = buffer.lines[0]? ∧ edit.buffer.lines[3]? = buffer.lines[3]? ∧
      edit.buffer.lines[1]? = buffer.lines[1]? ∧ (∀ c, (1, c) ∉ movesOf edit.events) ∧
      (2, 10) ∈ movesOf edit.events := by
  intro indenter buffer edit
  have placed : edit.outcome.toOption = some [8, 10] := by decide +kernel
  have same : edit.buffer.lines[1]? = buffer.lines[1]? := by decide +kernel
  have changed : edit.buffer.lines[2]? ≠ buffer.lines[2]? := by decide +kernel
  obtain ⟨outside, ⟨n, c, -, -, stuck⟩ | ⟨columns, done, -, -, -, reported⟩⟩ :=
    indentRegion_confined indenter buffer (by decide) 1 (some 3)
  · rw [stuck.failed] at placed
    cases placed
  · obtain rfl : columns = [8, 10] := by
      rw [done] at placed
      exact Option.some.inj placed
    refine ⟨by decide, placed, outside 0 (by decide), outside 3 (by decide), same, fun c told => ?_,
      (reported 2 10).mpr ⟨2, rfl, by decide, rfl, changed⟩⟩
    obtain ⟨n, isOne, -, -, moved⟩ := (reported 1 c).mp told
    obtain rfl : n = 1 := by omega
    exact moved same

end Indenter

end TurtleEdit
