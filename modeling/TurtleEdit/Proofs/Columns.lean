import TurtleEdit.Proofs.FixedPoint

/-!
What the columns of placed lines depend on.

Placing all lines from the top gives the columns of the plan, and the plan sees what a line is, not
where it stood. So texts that differ in their indentation have the same plan. Its columns are
multiples of the width of a level, because stretching the levels commutes with stopping at the first
column. A line that ends a statement starts the plan anew, so that statements may be placed apart
from each other. Along the items of a list the plan moves one level to the right, once, and it comes
back after the line that ends the list.
-/

namespace TurtleEdit

/-! ## Lines without their indentation -/

theorem unindented_unindented (line : Text) : unindented (unindented line) = unindented line :=
  Indents.unindented_append (List.forall_mem_nil _) line

theorem closesNode_unindented (line : Text) : closesNode (unindented line) = closesNode line :=
  closesNode_of_unindented (unindented_unindented line)

theorem lineShape_unindented (line : Text) : lineShape (unindented line) = lineShape line :=
  lineShape_of_unindented (unindented_unindented line)

theorem isItem_unindented (line : Text) : isItem (unindented line) = isItem line := by
  rw [isItem, lineShape_unindented, isItem]

namespace Indenter

variable {indenter : Indenter} {lines : List Text} {n : Nat} {column : Int}

theorem planBelow_map_unindented (indenter : Indenter) (afterItem : Bool) (above : Text)
    (column : Int) (rest : List Text) :
    indenter.planBelow afterItem (unindented above) column (rest.map unindented) =
      indenter.planBelow afterItem above column rest := by
  induction rest generalizing afterItem above column with
  | nil => rfl
  | cons line rest ih =>
    have here : indenter.below afterItem (unindented above) column (unindented line) =
        indenter.below afterItem above column line := by
      rw [below, closesNode_unindented, lineShape_unindented, below]
    rw [List.map_cons, planBelow, planBelow, here, isItem_unindented, ih]

/-- The plan does not see the indentation of the lines. -/
theorem plan_map_unindented (indenter : Indenter) (lines : List Text) :
    indenter.plan (lines.map unindented) = indenter.plan lines := by
  cases lines with
  | nil => rfl
  | cons first rest => rw [List.map_cons, plan, planBelow_map_unindented, plan]

/-- Lines that differ in their indentation only have the same plan. -/
theorem plan_of_unindented (indenter : Indenter) {others : List Text}
    (alike : lines.map unindented = others.map unindented) :
    indenter.plan lines = indenter.plan others := by
  rw [← plan_map_unindented, alike, plan_map_unindented]

/-! ## Levels of another width -/

theorem max_zero_mul {width : Int} (nonneg : 0 ≤ width) (column : Int) :
    max 0 (width * column) = width * max 0 column := by
  rcases Int.le_total 0 column with right | left
  · rw [Int.max_eq_right right, Int.max_eq_right (Int.mul_nonneg nonneg right)]
  · rw [Int.max_eq_left left, Int.mul_zero,
      Int.max_eq_left (Int.mul_nonpos_of_nonneg_of_nonpos nonneg left)]

theorem under_mul (width : Int) (shape : LineShape) (afterItem : Bool) (column : Int) :
    under ⟨width⟩ shape afterItem (width * column) = width * under ⟨1⟩ shape afterItem column := by
  cases shape <;> cases afterItem <;> simp [under, Int.mul_add, Int.mul_sub]

/-- Stretching the levels stretches the column of the next line. -/
theorem below_mul {width : Int} (nonneg : 0 ≤ width) (afterItem : Bool) (above : Text)
    (column : Int) (line : Text) :
    below ⟨width⟩ afterItem above (width * column) line =
      width * below ⟨1⟩ afterItem above column line := by
  unfold below
  split
  · rw [← max_zero_mul nonneg, Int.mul_sub, Int.mul_one]
  · rw [under_mul, max_zero_mul nonneg]

theorem planBelow_mul {width : Int} (nonneg : 0 ≤ width) (afterItem : Bool) (above : Text)
    (column : Int) (rest : List Text) :
    planBelow ⟨width⟩ afterItem above (width * column) rest =
      (planBelow ⟨1⟩ afterItem above column rest).map (width * ·) := by
  induction rest generalizing afterItem above column with
  | nil => rfl
  | cons line rest ih => rw [planBelow, planBelow, below_mul nonneg, ih, List.map_cons]

/-- The plan counts levels. -/
theorem plan_eq_map_mul {width : Int} (nonneg : 0 ≤ width) (lines : List Text) :
    plan ⟨width⟩ lines = (plan ⟨1⟩ lines).map (width * ·) := by
  cases lines with
  | nil => rfl
  | cons first rest =>
    have below := planBelow_mul nonneg false first 0 rest
    rw [Int.mul_zero] at below
    rw [plan, plan, below, List.map_cons, Int.mul_zero]

/-- The columns of all lines are multiples of the width of a level, and how many levels a line gets
depends neither on that width nor on the indentation that the lines had or the width of a tab. Where
all lines fit, they are placed so; where one does not, it is the fault. -/
theorem indentRegion_counts_levels (buffer other : Buffer)
    (alike : buffer.lines.map unindented = other.lines.map unindented)
    (tabs : 1 ≤ buffer.tabWidth) (otherTabs : 1 ≤ other.tabWidth) (width : Int)
    (nonneg : 0 ≤ width) :
    let levels := plan ⟨1⟩ other.lines
    let columns := levels.map (width * ·)
    let counted := indentRegion ⟨1⟩ other 0 none
    let edit := indentRegion ⟨width⟩ buffer 0 none
    plan ⟨width⟩ buffer.lines = columns ∧
      (other.FitsAll levels → counted.outcome = .ok levels) ∧
      (¬ other.FitsAll levels → other.Overflows levels counted) ∧
      (buffer.FitsAll columns → edit.outcome = .ok columns) ∧
      (¬ buffer.FitsAll columns → buffer.Overflows columns edit) := by
  intro levels columns counted edit
  have planned : plan ⟨width⟩ buffer.lines = columns := by
    rw [plan_of_unindented ⟨width⟩ alike, plan_eq_map_mul nonneg]
  have placed := outcome_of_fitsAll ⟨width⟩ tabs
  have full := overflows_of_not_fitsAll ⟨width⟩ tabs
  rw [planned] at placed full
  exact ⟨planned, outcome_of_fitsAll ⟨1⟩ otherTabs, overflows_of_not_fitsAll ⟨1⟩ otherTabs, placed,
    full⟩

/-- Of nodes closed once too often the last stays in the first column, whatever the width. -/
theorem indentRegion_counts_levels_clamped :
    let buffer : Buffer := ⟨["a:b".toList, "\tc [".toList, "d ;".toList, " ] ;".toList, "]".toList,
      "  ] ,".toList, "e".toList], 8, true, .widest⟩
    let other : Buffer := ⟨["  a:b".toList, "c [".toList, " \td ;".toList, "] ;".toList, "]".toList,
      "\t] ,".toList, "    e".toList], 3, false, .widest⟩
    (indentRegion ⟨1⟩ other 0 none).outcome = .ok [0, 1, 2, 1, 0, 0, 1] ∧
      (indentRegion ⟨4⟩ buffer 0 none).outcome = .ok [0, 4, 8, 4, 0, 0, 4] := by
  intro buffer other
  have levels : plan ⟨1⟩ other.lines = [0, 1, 2, 1, 0, 0, 1] := by decide +kernel
  obtain ⟨-, counted, -, placed, -⟩ := indentRegion_counts_levels buffer other (by decide +kernel)
    (by decide) (by decide) 4 (by decide)
  rw [levels] at counted placed
  exact ⟨counted (by decide +kernel), placed (by decide +kernel)⟩

/-- A level so wide that no text reaches over it: the line below the header is one level to the
right, but cannot be placed there. -/
theorem indentRegion_loses_count :
    let far : Int := 1000000000000000000000000000000
    let buffer : Buffer := ⟨["a:b".toList, "c ;".toList], 8, true, .widest⟩
    (indentRegion ⟨1⟩ buffer 0 none).outcome = .ok [0, 1] ∧
      (indentRegion ⟨far⟩ buffer 0 none).outcome = .error (.tooWide (far * 1)) := by
  intro far buffer
  exact ⟨by rfl, by rfl⟩

/-! ## Statements -/

theorem below_of_statementEnd (indenter : Indenter) (afterItem : Bool) {ends next : Text}
    (shape : lineShape ends = .statementEnd) (stays : closesNode next = false) (column : Int) :
    indenter.below afterItem ends column next = 0 := by
  rw [below, stays, shape]
  rfl

/-- Below the end of a statement the plan starts anew. -/
theorem planBelow_of_statementEnd (indenter : Indenter) (afterItem : Bool) {ends next : Text}
    (shape : lineShape ends = .statementEnd) (stays : closesNode next = false) (column : Int)
    (rest : List Text) :
    indenter.planBelow afterItem ends column (next :: rest) = indenter.plan (next :: rest) := by
  have noItem : isItem ends = false := isItem_of_lineShape shape (by decide)
  rw [planBelow, below_of_statementEnd indenter afterItem shape stays, noItem, plan]

theorem planBelow_append_statementEnd (indenter : Indenter) {ends next : Text}
    (shape : lineShape ends = .statementEnd) (stays : closesNode next = false)
    (afterItem : Bool) (above : Text) (column : Int) (lines rest : List Text) :
    indenter.planBelow afterItem above column (lines ++ ends :: next :: rest) =
      indenter.planBelow afterItem above column (lines ++ [ends]) ++
        indenter.plan (next :: rest) := by
  induction lines generalizing afterItem above column with
  | nil =>
    rw [List.nil_append, planBelow, planBelow_of_statementEnd indenter _ shape stays]
    rfl
  | cons line lines ih =>
    rw [List.cons_append, List.cons_append, planBelow, planBelow, ih, List.cons_append]

/-- The plan of lines of which one ends a statement. -/
theorem plan_append_statementEnd (indenter : Indenter) {ends next : Text}
    (shape : lineShape ends = .statementEnd) (stays : closesNode next = false)
    (lines rest : List Text) :
    indenter.plan (lines ++ ends :: next :: rest) =
      indenter.plan (lines ++ [ends]) ++ indenter.plan (next :: rest) := by
  cases lines with
  | nil =>
    rw [List.nil_append, plan, planBelow_of_statementEnd indenter _ shape stays]
    rfl
  | cons first lines =>
    rw [List.cons_append, List.cons_append, plan,
      planBelow_append_statementEnd indenter shape stays]
    rfl

/-- Statements are placed apart from each other: lines up to the end of a statement go where they
would go without the lines below, and these go where they would go in a buffer of their own. If
there is no room for a line in one of the parts, there is none for it in the whole. -/
theorem indentRegion_append_statement (indenter : Indenter) {ends next : Text}
    (shape : lineShape ends = .statementEnd) (stays : closesNode next = false)
    (lines rest : List Text) (tabWidth : Int) (tabs : 1 ≤ tabWidth)
    (wholeFeed firstFeed secondFeed : Bool) (room : Room) :
    let whole : Buffer := ⟨lines ++ [ends] ++ next :: rest, tabWidth, wholeFeed, room⟩
    let first : Buffer := ⟨lines ++ [ends], tabWidth, firstFeed, room⟩
    let second : Buffer := ⟨next :: rest, tabWidth, secondFeed, room⟩
    (indenter.indentRegion whole 0 none).outcome = do
      let columns ← (indenter.indentRegion first 0 none).outcome
      let further ← (indenter.indentRegion second 0 none).outcome
      return columns ++ further := by
  intro whole first second
  have planned : indenter.plan whole.lines =
      indenter.plan first.lines ++ indenter.plan second.lines := by
    rw [← plan_append_statementEnd indenter shape stays]
    exact congrArg indenter.plan (List.append_assoc lines [ends] (next :: rest))
  rw [outcome_plan indenter tabs, outcome_plan indenter tabs, outcome_plan indenter tabs, planned]
  exact fitAll_append whole (length_plan indenter first.lines).symm second.lines _

/-- The second statement begins with list items, the first one ends below one. -/
theorem indentRegion_append_statement_lists :
    let first : Buffer := ⟨["a:b".toList, "c ,".toList, " d .".toList], 8, true, .widest⟩
    let second : Buffer := ⟨["\te ,".toList, "f ,".toList, "g".toList], 8, false, .widest⟩
    let whole : Buffer := ⟨first.lines ++ second.lines, 8, true, .widest⟩
    let place (buffer : Buffer) := (indentRegion ⟨2⟩ buffer 0 none).outcome
    (place first).toOption = some [0, 2, 4] ∧ (place second).toOption = some [0, 2, 2] ∧
      place whole = do
        let columns ← place first
        let further ← place second
        return columns ++ further := by
  intro first second whole place
  refine ⟨by decide +kernel, by decide +kernel, ?_⟩
  exact @indentRegion_append_statement ⟨2⟩ " d .".toList "\te ,".toList (by decide +kernel)
    (by decide +kernel) ["a:b".toList, "c ,".toList] ["f ,".toList, "g".toList] 8 (by decide)
    true true false .widest

/-! ## Lists -/

theorem planBelow_nonneg (indenter : Indenter) (afterItem : Bool) (above : Text) (column : Int)
    (rest : List Text) : ∀ c ∈ indenter.planBelow afterItem above column rest, 0 ≤ c := by
  induction rest generalizing afterItem above column with
  | nil => exact List.forall_mem_nil _
  | cons line rest ih => exact List.forall_mem_cons.mpr ⟨below_nonneg _ _ _ _ _, ih _ _ _⟩

theorem plan_nonneg (indenter : Indenter) (lines : List Text) :
    ∀ c ∈ indenter.plan lines, 0 ≤ c := by
  cases lines with
  | nil => exact List.forall_mem_nil _
  | cons first rest =>
    exact List.forall_mem_cons.mpr ⟨Int.le_refl 0, planBelow_nonneg indenter false first 0 rest⟩

/-- The line above line `n` is a list item; above the first line there may be an item, too. -/
def followsItem (afterItem : Bool) (lines : List Text) : Nat → Bool
  | 0 => afterItem
  | n + 1 => lines[n]?.any isItem

theorem getElem?_planBelow_succ {afterItem : Bool} {first above line : Text} {start : Int}
    {rest : List Text} (up : (first :: rest)[n]? = some above)
    (here : (first :: rest)[n + 1]? = some line)
    (stands : (start :: indenter.planBelow afterItem first start rest)[n]? = some column) :
    (start :: indenter.planBelow afterItem first start rest)[n + 1]? =
      some (indenter.below (followsItem afterItem (first :: rest) n) above column line) := by
  induction n generalizing afterItem first start rest with
  | zero =>
    cases rest with
    | nil => cases here
    | cons second rest =>
      cases up
      cases here
      cases stands
      rfl
  | succ n ih =>
    cases rest with
    | nil => cases here
    | cons second rest =>
      -- one line further down, what stood above is all that is left of the first line
      have same : followsItem (isItem first) (second :: rest) n =
          followsItem afterItem (first :: second :: rest) (n + 1) := by
        cases n with
        | zero => rfl
        | succ n => rfl
      rw [← same]
      exact ih up here stands

/-- In the plan each column follows from the one above it. -/
theorem getElem?_plan_succ {above line : Text} (up : lines[n]? = some above)
    (here : lines[n + 1]? = some line) (stands : (indenter.plan lines)[n]? = some column) :
    (indenter.plan lines)[n + 1]? =
      some (indenter.below (followsItem false lines n) above column line) := by
  cases lines with
  | nil => cases here
  | cons first rest => exact getElem?_planBelow_succ up here stands

/-- Lines `first` to `last` are list items, the line above them is none, and a line comes below
them. Neither that line nor an item but the first closes a node. -/
structure ListRun (lines : List Text) (first last : Nat) : Prop where
  ordered : first ≤ last
  begins : followsItem false lines first = false
  items : ∀ n, first ≤ n → n ≤ last → lines[n]?.map lineShape = some .listItem
  stays : ∀ n, first < n → n ≤ last + 1 → lines[n]?.map closesNode = some false

/-- A line that closes nothing goes where the line above sends it. -/
theorem getElem?_plan_of_stays {shape : LineShape} {next : Int}
    (up : lines[n]?.map lineShape = some shape)
    (stays : lines[n + 1]?.map closesNode = some false)
    (stands : (indenter.plan lines)[n]? = some column)
    (under : indenter.under shape (followsItem false lines n) column = next) (nonneg : 0 ≤ next) :
    (indenter.plan lines)[n + 1]? = some next := by
  obtain ⟨above, higher, rfl⟩ := Option.map_eq_some_iff.mp up
  obtain ⟨line, here, closes⟩ := Option.map_eq_some_iff.mp stays
  rw [getElem?_plan_succ higher here stands, below_of_stays closes under nonneg]

namespace ListRun

variable {first last : Nat}

theorem followsItem_succ (run : ListRun lines first last) (low : first ≤ n) (high : n ≤ last) :
    followsItem false lines (n + 1) = true := by
  obtain ⟨item, here, shape⟩ := Option.map_eq_some_iff.mp (run.items n low high)
  rw [followsItem, here, Option.any_some, isItem, shape]
  rfl

/-- The lines below the first item stand one level to the right of it. -/
theorem plan_below (run : ListRun lines first last) (width : 0 ≤ indenter.width)
    (stands : (indenter.plan lines)[first]? = some column) (nonneg : 0 ≤ column)
    (low : first < n) (high : n ≤ last + 1) :
    (indenter.plan lines)[n]? = some (column + indenter.width) := by
  have right : 0 ≤ column + indenter.width := Int.add_nonneg nonneg width
  induction low with
  | refl =>
    refine getElem?_plan_of_stays (run.items first (Nat.le_refl _) run.ordered)
      (run.stays _ (Nat.lt_succ_self _) high) stands ?_ right
    rw [run.begins]
    rfl
  | @step n below ih =>
    have low : first < n := below
    have before : n ≤ last := Nat.le_of_succ_le_succ high
    refine getElem?_plan_of_stays (run.items n (Nat.le_of_lt low) before)
      (run.stays _ (Nat.lt_succ_of_lt low) high) (ih (Nat.le_of_lt high)) ?_ right
    obtain ⟨m, rfl⟩ := Nat.exists_eq_succ_of_ne_zero (Nat.ne_zero_of_lt low)
    rw [run.followsItem_succ (Nat.le_of_lt_succ low) (Nat.le_of_succ_le before)]
    rfl

/-- Below a line that ends the list the plan is back at the first item. -/
theorem plan_behind (run : ListRun lines first last) (width : 0 ≤ indenter.width)
    (stands : (indenter.plan lines)[first]? = some column) (nonneg : 0 ≤ column)
    (ends : lines[last + 1]?.map lineShape = some .continuation)
    (stays : lines[last + 2]?.map closesNode = some false) :
    (indenter.plan lines)[last + 2]? = some column := by
  have low : first < last + 1 := Nat.lt_succ_of_le run.ordered
  refine getElem?_plan_of_stays ends stays
    (run.plan_below width stands nonneg low (Nat.le_refl _)) ?_ nonneg
  rw [run.followsItem_succ run.ordered (Nat.le_refl _)]
  exact Int.add_sub_cancel column indenter.width

end ListRun

/-- Lines `first` to `last` of a list and the line below them as they stand, the first at `column`:
the others one level to the right of it, and if the line below ends the list, the next line where
the first stands, unless it closes a node. -/
structure Aligned (lines : List Text) (first last : Nat) (width column : Int)
    (stands : Nat → Int → Prop) : Prop where
  item : stands first column
  right : ∀ n, first < n → n ≤ last + 1 → stands n (column + width)
  back : lines[last + 1]?.map lineShape = some .continuation →
    lines[last + 2]?.map closesNode = some false → stands (last + 2) column

theorem Aligned.mono {first last : Nat} {width : Int} {stands also : Nat → Int → Prop}
    (aligned : Aligned lines first last width column stands)
    (stand : ∀ {n c}, stands n c → also n c) : Aligned lines first last width column also :=
  ⟨stand aligned.item, fun n low high => stand (aligned.right n low high),
    fun ends stays => stand (aligned.back ends stays)⟩

/-- The plan aligns a list. -/
theorem ListRun.exists_aligned {first last : Nat} (run : ListRun lines first last)
    (width : 0 ≤ indenter.width) :
    ∃ column, Aligned lines first last indenter.width column
      fun n c => (indenter.plan lines)[n]? = some c := by
  obtain ⟨item, here, -⟩ :=
    Option.map_eq_some_iff.mp (run.items first (Nat.le_refl _) run.ordered)
  have inside : first < (indenter.plan lines).length := by
    rw [length_plan]
    exact (List.getElem?_eq_some_iff.mp here).1
  have found := List.getElem?_eq_getElem inside
  have nonneg := plan_nonneg indenter lines _ (List.getElem_mem inside)
  exact ⟨_, found, fun n low high => run.plan_below width found nonneg low high,
    fun ends stays => run.plan_behind width found nonneg ends stays⟩

/-- The plan aligns the items of a list and the lines below it. Where all lines fit, they are so
aligned after they are placed; where one does not, it is the fault. -/
theorem indentRegion_aligns_list (indenter : Indenter) (width : 0 ≤ indenter.width)
    (buffer : Buffer) (tabs : 1 ≤ buffer.tabWidth) {first last : Nat}
    (run : ListRun buffer.lines first last) :
    let columns := indenter.plan buffer.lines
    let edit := indenter.indentRegion buffer 0 none
    ∃ column,
      Aligned buffer.lines first last indenter.width column (fun n c => columns[n]? = some c) ∧
      (buffer.FitsAll columns → edit.outcome = .ok columns ∧
        Aligned buffer.lines first last indenter.width column
          fun n c => edit.buffer.indentation (n : Nat) = .ok c) ∧
      (¬ buffer.FitsAll columns → buffer.Overflows columns edit) := by
  intro columns edit
  obtain ⟨column, aligned⟩ := run.exists_aligned width
  refine ⟨column, aligned, fun fits => ?_, overflows_of_not_fitsAll indenter tabs⟩
  have done := outcome_of_fitsAll indenter tabs fits
  exact ⟨done, aligned.mono fun found => indentAll_stands tabs done found⟩

/-- A list in a block: its first item closes a node, and the line below the list is back at it. -/
theorem indentRegion_aligns_list_inside :
    let buffer : Buffer := ⟨["a:b".toList, "c [".toList, "d ;".toList, "] ,".toList,
      "\te ,".toList, " f ,".toList, "g ;".toList, "h".toList], 8, true, .widest⟩
    let edit := indentRegion ⟨3⟩ buffer 0 none
    edit.buffer.indentation (3 : Nat) = .ok 3 ∧
      (∀ n, 3 < n → n ≤ 6 → edit.buffer.indentation (n : Nat) = .ok (3 + 3)) ∧
      edit.buffer.indentation (7 : Nat) = .ok 3 := by
  intro buffer edit
  have items : ∀ n, n ≤ 5 → 3 ≤ n → buffer.lines[n]?.map lineShape = some .listItem := by
    decide +kernel
  have stays : ∀ n, n ≤ 6 → 3 < n → buffer.lines[n]?.map closesNode = some false := by
    decide +kernel
  have run : ListRun buffer.lines 3 5 := ⟨by decide, by decide +kernel,
    fun n low high => items n high low, fun n low high => stays n high low⟩
  have planned : (plan ⟨3⟩ buffer.lines)[3]? = some 3 := by decide +kernel
  obtain ⟨column, inPlan, placed, -⟩ :=
    indentRegion_aligns_list ⟨3⟩ (by decide) buffer (by decide) run
  obtain rfl : column = 3 := Option.some.inj (inPlan.item.symm.trans planned)
  obtain ⟨-, aligned⟩ := placed (by decide +kernel)
  exact ⟨aligned.item, aligned.right, aligned.back (by decide +kernel) (by decide +kernel)⟩

/-- A level so wide that no text reaches over it: the line below a list of one item cannot be
placed to the right of it. -/
theorem indentRegion_leaves_list :
    let far : Int := 1000000000000000000000000000000
    let buffer : Buffer := ⟨["a ,".toList, "b ;".toList], 8, true, .widest⟩
    let edit := indentRegion ⟨far⟩ buffer 0 none
    ListRun buffer.lines 0 0 ∧ edit.outcome = .error (.tooWide (0 + far)) ∧
      edit.buffer.indentation (0 : Nat) = .ok 0 ∧ edit.buffer.indentation (1 : Nat) = .ok 0 := by
  intro far buffer edit
  have items : ∀ n, n ≤ 0 → 0 ≤ n → buffer.lines[n]?.map lineShape = some .listItem := by
    decide +kernel
  have stays : ∀ n, n ≤ 1 → 0 < n → buffer.lines[n]?.map closesNode = some false := by
    decide +kernel
  exact ⟨⟨by decide, by rfl, fun n low high => items n high low,
    fun n low high => stays n high low⟩, by rfl, by rfl, by rfl⟩

end Indenter

end TurtleEdit
