import TurtleEdit.Buffer.Plan
import TurtleEdit.Proofs.Shapes

/-!
What it takes to place a line, and what placing it changes.

Where a line belongs depends on the lines above it and on what the line itself is, not on where it
stands. Placing it replaces its leading spaces and tabs and touches no other line, so afterwards it
belongs where it stands. Placing all lines from the top therefore gives the columns of the plan.

Of the faults only one is left once tabs have a width and the line exists: there may be no room for
the line in the columns that it should have. The plan knows nothing of room; it says where lines
belong, and whether they fit there is asked of each of them.
-/

namespace TurtleEdit

/-! ## Results in steps -/

section Steps

variable {ε ε' α β : Type}

theorem bind_eq_ok_iff {first : Except ε α} {next : α → Except ε β} {value : β} :
    (first >>= next) = .ok value ↔ ∃ middle, first = .ok middle ∧ next middle = .ok value := by
  constructor
  · intro done
    cases first with
    | error stop => cases done
    | ok middle => exact ⟨middle, rfl, done⟩
  · rintro ⟨middle, rfl, done⟩
    exact done

theorem mapError_eq_ok_iff {result : Except ε α} {change : ε → ε'} {value : α} :
    result.mapError change = .ok value ↔ result = .ok value := by
  constructor
  · intro done
    cases result with
    | error fault => cases done
    | ok found =>
      cases done
      rfl
  · rintro rfl
    rfl

theorem map_eq_ok_iff {result : Except ε α} {change : α → β} {value : β} :
    result.map change = .ok value ↔ ∃ found, result = .ok found ∧ change found = value := by
  constructor
  · intro done
    cases result with
    | error fault => cases done
    | ok found => exact ⟨found, rfl, Except.ok.inj done⟩
  · rintro ⟨found, rfl, rfl⟩
    rfl

theorem map_eq_error_iff {result : Except ε α} {change : α → β} {fault : ε} :
    result.map change = .error fault ↔ result = .error fault := by
  constructor
  · intro failed
    cases result with
    | error found => exact congrArg Except.error (Except.error.inj failed)
    | ok value => cases failed
  · intro failed
    rw [failed]
    rfl

theorem toOption_eq_some_iff {result : Except ε α} {value : α} :
    result.toOption = some value ↔ result = .ok value := by
  constructor
  · intro done
    cases result with
    | error fault => cases done
    | ok found => exact congrArg Except.ok (Option.some.inj done)
  · rintro rfl
    rfl

end Steps

/-! ## Measuring -/

theorem columnsOf_replicate (tabWidth : Int) (n : Nat) :
    columnsOf tabWidth (List.replicate n ' ') = n := by
  induction n with
  | zero => rfl
  | succ n ih =>
    rw [List.replicate_succ', columnsOf, List.foldl_append, ← columnsOf, ih]
    rfl

theorem measure_of_pos {tabWidth : Int} (tabs : 1 ≤ tabWidth) (line : Text) :
    measure tabWidth line = .ok (columnsOf tabWidth (leading line)) :=
  if_neg fun zero => by have := zero.1; omega

/-- Measuring undoes setting, whatever the width of a tab. -/
theorem measure_replicate_append (tabWidth : Int) (n : Nat) (line : Text) :
    measure tabWidth (List.replicate n ' ' ++ unindented line) = .ok (n : Int) := by
  have noTab : '\t' ∉ List.replicate n ' ' :=
    fun member => absurd (List.eq_of_mem_replicate member) (by decide)
  rw [measure, (indents_replicate n).leading_append, if_neg fun zero => noTab zero.2,
    columnsOf_replicate]

theorem isItem_of_lineShape {line : Text} {shape : LineShape} (has : lineShape line = shape)
    (other : shape ≠ .listItem) : isItem line = false := by
  rw [isItem, has]
  exact decide_eq_false other

namespace Buffer

variable {buffer : Buffer} {n : Nat} {line : Text}

theorem line_of_getElem? (here : buffer.lines[n]? = some line) : buffer.line n = .ok line := by
  rw [Buffer.line, if_neg (Int.not_lt.mpr (Int.natCast_nonneg n)), Int.toNat_natCast, here]

theorem getElem?_of_line {n : Int} (here : buffer.line n = .ok line) :
    buffer.lines[n.toNat]? = some line := by
  unfold Buffer.line at here
  split at here
  · cases here
  · split at here
    · next found =>
      cases here
      exact found
    · cases here

theorem indentation_of_getElem? (here : buffer.lines[n]? = some line) :
    buffer.indentation n = measure buffer.tabWidth line := by
  rw [indentation, line_of_getElem? here]
  rfl

/-- The buffer with another line `n`. -/
def replace (buffer : Buffer) (n : Nat) (line : Text) : Buffer :=
  { buffer with lines := buffer.lines.set n line }

@[simp] theorem lineCount_replace (buffer : Buffer) (n : Nat) (line : Text) :
    (buffer.replace n line).lineCount = buffer.lineCount := List.length_set

theorem replace_self (here : buffer.lines[n]? = some line) : buffer.replace n line = buffer := by
  obtain ⟨inside, rfl⟩ := List.getElem?_eq_some_iff.mp here
  rw [replace, List.set_getElem_self]

theorem getElem?_replace_of_ne (buffer : Buffer) {m : Nat} (line : Text) (other : n ≠ m) :
    (buffer.replace n line).lines[m]? = buffer.lines[m]? := List.getElem?_set_ne other

theorem getElem?_replace (buffer : Buffer) (line : Text) (inside : n < buffer.lineCount) :
    (buffer.replace n line).lines[n]? = some line := List.getElem?_set_self inside

theorem exists_getElem? (inside : n < buffer.lineCount) : ∃ line, buffer.lines[n]? = some line :=
  ⟨_, List.getElem?_eq_getElem inside⟩

theorem setIndentation_of_holds (here : buffer.lines[n]? = some line) {columns : Int}
    (nonneg : 0 ≤ columns) (room : buffer.room.holds columns line = true) :
    buffer.setIndentation n columns =
      ⟨buffer.replace n (List.replicate columns.toNat ' ' ++ unindented line),
        [.reindented n columns], .ok ()⟩ := by
  rw [setIndentation, if_neg (by omega), line_of_getElem? here]
  simp only [if_pos room, Int.toNat_natCast]
  rfl

theorem setIndentation_of_not_holds (here : buffer.lines[n]? = some line) {columns : Int}
    (nonneg : 0 ≤ columns) (full : buffer.room.holds columns line = false) :
    buffer.setIndentation n columns = ⟨buffer, [], .error (.tooWide columns)⟩ := by
  rw [setIndentation, if_neg (by omega), line_of_getElem? here]
  simp only [full, Bool.false_eq_true, if_false]

/-- A line can be put at a column: it stands there, or there is room for it. -/
def fits (buffer : Buffer) (line : Text) (column : Int) : Bool :=
  columnsOf buffer.tabWidth (leading line) = column || buffer.room.holds column line

/-- Every line can be put at its column. -/
def FitsAll (buffer : Buffer) (columns : List Int) : Prop :=
  ∀ entry ∈ buffer.lines.zip columns, buffer.fits entry.1 entry.2 = true

instance (buffer : Buffer) (columns : List Int) : Decidable (buffer.FitsAll columns) :=
  inferInstanceAs (Decidable (∀ entry ∈ buffer.lines.zip columns, _))

/-- An edit ended because a line cannot be put at its column. -/
def Overflows (buffer : Buffer) (columns : List Int) (edit : Edit (List Int)) : Prop :=
  ∃ line column, (line, column) ∈ buffer.lines.zip columns ∧ buffer.fits line column = false ∧
    edit.outcome = .error (.tooWide column)

/-- An edit of line `n` leaves the buffer as it is, or it succeeds and puts spaces in place of the
leading spaces and tabs of the line. -/
inductive Respaces {α : Type} (buffer : Buffer) (n : Int) (edit : Edit α) : Prop
  | kept (same : edit.buffer = buffer)
  | moved {line : Text} {columns : Nat} {value : α} (here : buffer.lines[n.toNat]? = some line)
    (left : edit.buffer = buffer.replace n.toNat (List.replicate columns ' ' ++ unindented line))
    (done : edit.outcome = .ok value)

theorem respaces_setIndentation (buffer : Buffer) (n columns : Int) :
    Respaces buffer n (buffer.setIndentation n columns) := by
  unfold setIndentation
  split
  · exact .kept rfl
  · split
    · exact .kept rfl
    · next line here =>
      split
      · exact .moved (getElem?_of_line here) rfl rfl
      · exact .kept rfl

namespace Respaces

variable {α β : Type} {n : Int} {edit : Edit α} (respaces : Respaces buffer n edit)

include respaces

/-- What is reported of an edit, and how it is answered, makes no difference. -/
theorem map (events : List Event) (change : α → β) :
    Respaces buffer n ⟨edit.buffer, events, edit.outcome.map change⟩ := by
  cases respaces with
  | kept same => exact .kept same
  | moved here left done => exact .moved here left (congrArg (Except.map change) done)

/-- An edit that fails changes nothing. -/
theorem buffer_of_error {fault : Fault} (failed : edit.outcome = .error fault) :
    edit.buffer = buffer := by
  cases respaces with
  | kept same => exact same
  | moved _ _ done => exact nomatch done.symm.trans failed

/-- The other lines are not touched. -/
theorem getElem?_of_ne {m : Nat} (other : n.toNat ≠ m) :
    edit.buffer.lines[m]? = buffer.lines[m]? := by
  cases respaces with
  | kept same => rw [same]
  | moved _ left _ => rw [left, getElem?_replace_of_ne buffer _ other]

end Respaces

end Buffer

namespace Indenter

variable {indenter : Indenter} {buffer : Buffer} {n : Nat} {line above : Text} {column : Int}

/-! ## Where a line belongs -/

/-- Line `n` belongs in a column, whatever is reported on the way there. -/
def Belongs (indenter : Indenter) (buffer : Buffer) (n : Nat) (column : Int) : Prop :=
  ∃ event, indenter.infer buffer n = .ok ⟨column, event⟩

theorem Belongs.unique {other : Int} (one : indenter.Belongs buffer n column)
    (two : indenter.Belongs buffer n other) : column = other := by
  obtain ⟨event, found⟩ := one
  obtain ⟨event', found'⟩ := two
  have same := Except.ok.inj (found.symm.trans found')
  exact congrArg Placement.columns same

theorem pred_natCast_succ (n : Nat) : ((n + 1 : Nat) : Int) - 1 = n := by omega

theorem afterItem_zero (buffer : Buffer) : afterItem buffer (0 : Nat) = false := rfl

theorem afterItem_succ (here : buffer.lines[n]? = some line) :
    afterItem buffer (n + 1 : Nat) = isItem line := by
  rw [afterItem, pred_natCast_succ, Buffer.line_of_getElem? here]
  rfl

theorem belongs_zero (indenter : Indenter) (here : buffer.lines[0]? = some line) :
    indenter.Belongs buffer 0 0 := by
  refine ⟨none, ?_⟩
  rw [infer, Buffer.line_of_getElem? here]
  rfl

/-- Below the line `above`, which stands at `column`, a line belongs where the plan says. -/
theorem belongs_succ (indenter : Indenter) (here : buffer.lines[n + 1]? = some line)
    (up : buffer.lines[n]? = some above) (measured : buffer.indentation n = .ok column) :
    indenter.Belongs buffer (n + 1)
      (indenter.below (afterItem buffer n) above column line) := by
  have notFirst : ¬ ((n + 1 : Nat) : Int) = 0 := by omega
  rw [Belongs, infer, Buffer.line_of_getElem? here, pred_natCast_succ, Buffer.line_of_getElem? up,
    measured]
  simp only [bind, Except.bind, pure, Except.pure, if_neg notFirst]
  cases closes : closesNode line with
  | true => exact ⟨_, by rw [below, closes]; rfl⟩
  | false => exact ⟨_, by rw [below, closes]; rfl⟩

theorem below_nonneg (indenter : Indenter) (afterItem : Bool) (above : Text) (column : Int)
    (line : Text) : 0 ≤ indenter.below afterItem above column line := by
  unfold below
  split <;> exact Int.le_max_left _ _

/-- A line that closes nothing goes where the line above sends it. -/
theorem below_of_stays {afterItem : Bool} {next : Int} (stays : closesNode line = false)
    (under : indenter.under (lineShape above) afterItem column = next) (nonneg : 0 ≤ next) :
    indenter.below afterItem above column line = next := by
  rw [below, stays, under]
  exact Int.max_eq_right nonneg

/-- Where tabs have a width, every line belongs somewhere. -/
theorem exists_belongs (indenter : Indenter) (tabs : 1 ≤ buffer.tabWidth)
    (inside : n < buffer.lineCount) :
    ∃ column, 0 ≤ column ∧ indenter.Belongs buffer n column := by
  obtain ⟨line, here⟩ := Buffer.exists_getElem? inside
  cases n with
  | zero => exact ⟨0, Int.le_refl 0, belongs_zero indenter here⟩
  | succ n =>
    obtain ⟨above, up⟩ := Buffer.exists_getElem? (Nat.lt_of_succ_lt inside)
    have measured := (Buffer.indentation_of_getElem? up).trans (measure_of_pos tabs above)
    exact ⟨_, below_nonneg _ _ _ _ _, belongs_succ indenter here up measured⟩

theorem Belongs.nonneg (belongs : indenter.Belongs buffer n column) (tabs : 1 ≤ buffer.tabWidth)
    (inside : n < buffer.lineCount) : 0 ≤ column := by
  obtain ⟨other, nonneg, also⟩ := exists_belongs indenter tabs inside
  rwa [belongs.unique also]

/-- The lines above line `n`, and how they are measured, are the same. -/
structure SameAbove (n : Nat) (buffer other : Buffer) : Prop where
  tabWidth : other.tabWidth = buffer.tabWidth
  above : ∀ m, m < n → other.lines[m]? = buffer.lines[m]?

theorem SameAbove.mono {other : Buffer} {m : Nat} (same : SameAbove n buffer other)
    (earlier : m ≤ n) : SameAbove m buffer other :=
  ⟨same.tabWidth, fun k before => same.above k (Nat.lt_of_lt_of_le before earlier)⟩

theorem SameAbove.trans {other third : Buffer} (one : SameAbove n buffer other)
    (two : SameAbove n other third) : SameAbove n buffer third :=
  ⟨two.tabWidth.trans one.tabWidth, fun m before => (two.above m before).trans (one.above m before)⟩

theorem sameAbove_replace (buffer : Buffer) (n : Nat) (line : Text) :
    SameAbove n buffer (buffer.replace n line) :=
  ⟨rfl, fun _ before => Buffer.getElem?_replace_of_ne buffer line (Nat.ne_of_gt before)⟩

/-- Where a line belongs depends on the lines above it, and not on its indentation. -/
theorem Belongs.of_sameAbove {other : Buffer} {moved : Text} (tabs : 1 ≤ buffer.tabWidth)
    (belongs : indenter.Belongs buffer n column) (same : SameAbove n buffer other)
    (here : buffer.lines[n]? = some line) (there : other.lines[n]? = some moved)
    (alike : unindented moved = unindented line) : indenter.Belongs other n column := by
  cases n with
  | zero =>
    rw [belongs.unique (belongs_zero indenter here)]
    exact belongs_zero indenter there
  | succ n =>
    have inside : n + 1 < buffer.lineCount := (List.getElem?_eq_some_iff.mp here).1
    obtain ⟨above, up⟩ := Buffer.exists_getElem? (Nat.lt_of_succ_lt inside)
    have up' : other.lines[n]? = some above := (same.above n (Nat.lt_succ_self n)).trans up
    have measured := (Buffer.indentation_of_getElem? up).trans (measure_of_pos tabs above)
    have measured' : other.indentation n = .ok (columnsOf buffer.tabWidth (leading above)) := by
      rw [Buffer.indentation_of_getElem? up', same.tabWidth, measure_of_pos tabs above]
    have afterItemEq : afterItem other n = afterItem buffer n := by
      cases n with
      | zero => rfl
      | succ n =>
        have twoAbove := Nat.lt_of_succ_lt (Nat.lt_of_succ_lt inside)
        obtain ⟨first, before⟩ := Buffer.exists_getElem? twoAbove
        rw [afterItem_succ before, afterItem_succ ((same.above n (by omega)).trans before)]
    rw [belongs.unique (belongs_succ indenter here up measured)]
    have found := belongs_succ indenter there up' measured'
    rwa [afterItemEq, below, closesNode_of_unindented alike, ← below] at found

/-! ## Placing a line -/

/-- Placing a line finds that it does not fit, or replaces the line by one that measures what it
should and is else the same. -/
theorem indentLine_spec (tabs : 1 ≤ buffer.tabWidth) (here : buffer.lines[n]? = some line)
    (belongs : indenter.Belongs buffer n column) (nonneg : 0 ≤ column) :
    buffer.fits line column = false ∧ (indenter.indentLine buffer n).buffer = buffer ∧
        (indenter.indentLine buffer n).outcome = .error (.tooWide column) ∨
      buffer.fits line column = true ∧ ∃ moved, unindented moved = unindented line ∧
        measure buffer.tabWidth moved = .ok column ∧
        (indenter.indentLine buffer n).buffer = buffer.replace n moved ∧
        (indenter.indentLine buffer n).outcome = .ok column := by
  obtain ⟨event, found⟩ := belongs
  have measured := (Buffer.indentation_of_getElem? here).trans (measure_of_pos tabs line)
  rw [indentLine, found, measured, Buffer.fits]
  dsimp only
  split
  next agrees =>
    refine Or.inr ⟨by rw [decide_eq_true agrees.symm, Bool.true_or], line, rfl, ?_,
      (Buffer.replace_self here).symm, rfl⟩
    rw [measure_of_pos tabs, agrees]
  next differs =>
    rw [decide_eq_false (Ne.symm differs), Bool.false_or]
    cases room : buffer.room.holds column line with
    | false =>
      rw [Buffer.setIndentation_of_not_holds here nonneg room]
      exact Or.inl ⟨rfl, rfl, rfl⟩
    | true =>
      rw [Buffer.setIndentation_of_holds here nonneg room]
      refine Or.inr ⟨rfl, _, ?_, ?_, rfl, rfl⟩
      · exact (indents_replicate _).unindented_append line
      · rw [measure_replicate_append, Int.toNat_of_nonneg nonneg]

/-- A line goes to a column, unless it does not fit there. -/
def fit (buffer : Buffer) (line : Text) (column : Int) : Except Fault Int :=
  if buffer.fits line column then .ok column else .error (.tooWide column)

/-- Whether a line can be placed depends on where it stands and where it belongs. -/
theorem outcome_indentLine (tabs : 1 ≤ buffer.tabWidth) (here : buffer.lines[n]? = some line)
    (belongs : indenter.Belongs buffer n column) (nonneg : 0 ≤ column) :
    (indenter.indentLine buffer n).outcome = fit buffer line column := by
  rcases indentLine_spec tabs here belongs nonneg with
    ⟨full, -, failed⟩ | ⟨fits, moved, -, -, -, placed⟩
  · rw [failed, fit, full]
    rfl
  · rw [placed, fit, fits]
    rfl

theorem respaces_indentLine (indenter : Indenter) (buffer : Buffer) (n : Int) :
    Buffer.Respaces buffer n (indenter.indentLine buffer n) := by
  unfold indentLine
  split
  · exact .kept rfl
  · split
    · exact .kept rfl
    · split
      · exact .kept rfl
      · exact (buffer.respaces_setIndentation n _).map _ _

/-! ## Placing all lines -/

/-- What placing a line keeps, whatever becomes of it, placing lines from top to bottom keeps. -/
theorem indentFrom_keeps (keeps : Buffer → Buffer → Prop) (refl : ∀ buffer, keeps buffer buffer)
    (trans : ∀ {first second third}, keeps first second → keeps second third → keeps first third)
    {count : Nat}
    (step : ∀ (buffer : Buffer) (m : Nat), n ≤ m → m < n + count →
      keeps buffer (indenter.indentLine buffer m).buffer) (buffer : Buffer) :
    keeps buffer (indenter.indentFrom buffer n count).buffer := by
  induction count generalizing buffer n with
  | zero => exact refl buffer
  | succ count ih =>
    have first := step buffer n (Nat.le_refl n) (by omega)
    have below := ih (n := n + 1) fun buffer m low high => step buffer m (by omega) (by omega)
    rw [indentFrom]
    dsimp only
    split
    · exact first
    · exact trans first (below _)

theorem indentFrom_of_error {fault : Fault}
    (failed : (indenter.indentLine buffer n).outcome = .error fault) (count : Nat) :
    (indenter.indentFrom buffer n (count + 1)).buffer = (indenter.indentLine buffer n).buffer ∧
      (indenter.indentFrom buffer n (count + 1)).outcome = .error fault := by
  rw [indentFrom, failed]
  exact ⟨rfl, rfl⟩

theorem indentFrom_of_ok {next : Buffer}
    (placed : (indenter.indentLine buffer n).outcome = .ok column)
    (left : (indenter.indentLine buffer n).buffer = next) (count : Nat) :
    (indenter.indentFrom buffer n (count + 1)).buffer =
        (indenter.indentFrom next (n + 1) count).buffer ∧
      (indenter.indentFrom buffer n (count + 1)).outcome =
        (indenter.indentFrom next (n + 1) count).outcome.map (column :: ·) := by
  rw [indentFrom, placed, left]
  exact ⟨rfl, rfl⟩

/-- The plan below a line depends on its shape only. -/
theorem planBelow_of_lineShape (indenter : Indenter) {moved : Text}
    (same : lineShape moved = lineShape above) (afterItem : Bool) (column : Int)
    (rest : List Text) :
    indenter.planBelow afterItem moved column rest =
      indenter.planBelow afterItem above column rest := by
  cases rest with
  | nil => rfl
  | cons line rest => simp only [planBelow, below, isItem, same]

/-- Lines go to their columns, up to the first that does not fit there. -/
def fitAll (buffer : Buffer) (lines : List Text) (columns : List Int) :
    Except Fault (List Int) :=
  (lines.zip columns).mapM fun entry => fit buffer entry.1 entry.2

theorem fitAll_cons (buffer : Buffer) (line : Text) (lines : List Text) (column : Int)
    (columns : List Int) :
    fitAll buffer (line :: lines) (column :: columns) = do
      let placed ← fit buffer line column
      let later ← fitAll buffer lines columns
      return placed :: later := by
  rw [fitAll, List.zip_cons_cons, List.mapM_cons]
  rfl

/-- Lines that go to their columns one part after the other. -/
theorem fitAll_append (buffer : Buffer) {lines : List Text} {columns : List Int}
    (size : lines.length = columns.length) (others : List Text) (further : List Int) :
    fitAll buffer (lines ++ others) (columns ++ further) = do
      let first ← fitAll buffer lines columns
      let second ← fitAll buffer others further
      return first ++ second := by
  rw [fitAll, List.zip_append size, List.mapM_append]
  rfl

/-- Placing a line and then the lines below it. -/
theorem outcome_indentFrom_succ (tabs : 1 ≤ buffer.tabWidth)
    (here : buffer.lines[n]? = some line) (belongs : indenter.Belongs buffer n column)
    (nonneg : 0 ≤ column) {count : Nat} {later : Except Fault (List Int)}
    (below : ∀ moved, unindented moved = unindented line →
      (buffer.replace n moved).indentation n = .ok column →
      (indenter.indentFrom (buffer.replace n moved) (n + 1) count).outcome = later) :
    (indenter.indentFrom buffer n (count + 1)).outcome = do
      let placed ← fit buffer line column
      let columns ← later
      return placed :: columns := by
  have inside : n < buffer.lineCount := (List.getElem?_eq_some_iff.mp here).1
  have fits := outcome_indentLine tabs here belongs nonneg
  rcases indentLine_spec tabs here belongs nonneg with
    ⟨-, -, failed⟩ | ⟨-, moved, alike, measured, replaced, placed⟩
  · rw [(indentFrom_of_error failed count).2, ← fits, failed]
    rfl
  · have stands := Buffer.indentation_of_getElem? (buffer.getElem?_replace moved inside)
    rw [(indentFrom_of_ok placed replaced count).2, below moved alike (stands.trans measured),
      ← fits, placed]
    cases later with
    | error fault => rfl
    | ok columns => rfl

/-- The lines below a line that stands at `column` go to the columns of the plan. -/
theorem outcome_planBelow (indenter : Indenter) (tabs : 1 ≤ buffer.tabWidth)
    (up : buffer.lines[n]? = some above) (measured : buffer.indentation n = .ok column)
    {rest : List Text} (tail : buffer.lines.drop (n + 1) = rest) :
    (indenter.indentFrom buffer (n + 1) rest.length).outcome =
      fitAll buffer rest
        (indenter.planBelow (afterItem buffer n) above column rest) := by
  induction rest generalizing buffer n above column with
  | nil => rfl
  | cons line rest ih =>
    have here : buffer.lines[n + 1]? = some line := by
      rw [← List.head?_drop, tail, List.head?_cons]
    have tail' : buffer.lines.drop (n + 1 + 1) = rest := by
      rw [← List.drop_drop, tail, List.drop_one, List.tail_cons]
    rw [planBelow, fitAll_cons, List.length_cons]
    refine outcome_indentFrom_succ tabs here (belongs_succ indenter here up measured)
      (below_nonneg _ _ _ _ _) fun moved alike stands => ?_
    have there := buffer.getElem?_replace moved (List.getElem?_eq_some_iff.mp here).1
    have untouched : (buffer.replace (n + 1) moved).lines.drop (n + 1 + 1) = rest := by
      rw [Buffer.replace, List.drop_set_of_lt (Nat.lt_succ_self _), tail']
    have up' : (buffer.replace (n + 1) moved).lines[n]? = some above := by
      rw [Buffer.getElem?_replace_of_ne buffer moved (Nat.succ_ne_self n), up]
    have tabs' : 1 ≤ (buffer.replace (n + 1) moved).tabWidth := tabs
    have next := ih tabs' there stands untouched
    rwa [afterItem_succ up', planBelow_of_lineShape indenter (lineShape_of_unindented alike)]
      at next

/-- All lines, placed from the top, go to the columns of the plan. -/
theorem outcome_plan (indenter : Indenter) (tabs : 1 ≤ buffer.tabWidth) :
    (indenter.indentRegion buffer 0 none).outcome =
      fitAll buffer buffer.lines (indenter.plan buffer.lines) := by
  have all : indenter.indentRegion buffer 0 none =
      indenter.indentFrom buffer 0 buffer.lines.length := rfl
  rw [all]
  cases lines : buffer.lines with
  | nil => rfl
  | cons first rest =>
    have here : buffer.lines[0]? = some first := by rw [lines]; rfl
    rw [plan, fitAll_cons, List.length_cons]
    refine outcome_indentFrom_succ tabs here (belongs_zero indenter here) (Int.le_refl 0)
      fun moved alike stands => ?_
    have there := buffer.getElem?_replace moved (List.getElem?_eq_some_iff.mp here).1
    have untouched : (buffer.replace 0 moved).lines.drop (0 + 1) = rest := by
      rw [Buffer.replace, List.drop_set_of_lt Nat.one_pos, lines, List.drop_one, List.tail_cons]
    have tabs' : 1 ≤ (buffer.replace 0 moved).tabWidth := tabs
    have next := outcome_planBelow indenter tabs' there stands untouched
    rwa [afterItem_zero, planBelow_of_lineShape indenter (lineShape_of_unindented alike)] at next

/-- Lines that all fit go to their columns. -/
theorem fitAll_of_fits {lines : List Text} {columns : List Int}
    (size : lines.length = columns.length)
    (fits : ∀ entry ∈ lines.zip columns, buffer.fits entry.1 entry.2 = true) :
    fitAll buffer lines columns = .ok columns := by
  induction lines generalizing columns with
  | nil =>
    rw [List.eq_nil_of_length_eq_zero size.symm]
    rfl
  | cons line lines ih =>
    cases columns with
    | nil => cases size
    | cons column columns =>
      obtain ⟨here, below⟩ := List.forall_mem_cons.mp fits
      rw [fitAll_cons, fit, if_pos here, ih (Nat.succ.inj size) below]
      rfl

/-- Of lines that do not all fit one is the fault. -/
theorem exists_fitAll_of_not_fits {lines : List Text} {columns : List Int}
    (full : ¬ ∀ entry ∈ lines.zip columns, buffer.fits entry.1 entry.2 = true) :
    ∃ line column, (line, column) ∈ lines.zip columns ∧ buffer.fits line column = false ∧
      fitAll buffer lines columns = .error (.tooWide column) := by
  induction lines generalizing columns with
  | nil => exact absurd (List.forall_mem_nil _) full
  | cons line lines ih =>
    cases columns with
    | nil => exact absurd (List.forall_mem_nil _) full
    | cons column columns =>
      rw [fitAll_cons, fit]
      cases here : buffer.fits line column with
      | false => exact ⟨line, column, List.mem_cons_self, here, rfl⟩
      | true =>
        have below := fun fits => full (List.forall_mem_cons.mpr ⟨here, fits⟩)
        obtain ⟨other, further, member, unfit, failed⟩ := ih below
        refine ⟨other, further, List.mem_cons_of_mem _ member, unfit, ?_⟩
        rw [if_pos rfl, failed]
        rfl

theorem length_planBelow (indenter : Indenter) (afterItem : Bool) (above : Text) (column : Int)
    (rest : List Text) :
    (indenter.planBelow afterItem above column rest).length = rest.length := by
  induction rest generalizing afterItem above column with
  | nil => rfl
  | cons line rest ih => rw [planBelow, List.length_cons, ih, List.length_cons]

theorem length_plan (indenter : Indenter) (lines : List Text) :
    (indenter.plan lines).length = lines.length := by
  cases lines with
  | nil => rfl
  | cons first rest => rw [plan, List.length_cons, length_planBelow, List.length_cons]

/-- Where all lines fit into the plan, placing them from the top gives the plan. -/
theorem outcome_of_fitsAll (indenter : Indenter) (tabs : 1 ≤ buffer.tabWidth)
    (fits : buffer.FitsAll (indenter.plan buffer.lines)) :
    (indenter.indentRegion buffer 0 none).outcome = .ok (indenter.plan buffer.lines) := by
  rw [outcome_plan indenter tabs]
  exact fitAll_of_fits (length_plan indenter buffer.lines).symm fits

/-- Where they do not, one that does not fit is the fault. -/
theorem overflows_of_not_fitsAll (indenter : Indenter) (tabs : 1 ≤ buffer.tabWidth)
    (full : ¬ buffer.FitsAll (indenter.plan buffer.lines)) :
    buffer.Overflows (indenter.plan buffer.lines) (indenter.indentRegion buffer 0 none) := by
  rw [Buffer.Overflows, outcome_plan indenter tabs]
  exact exists_fitAll_of_not_fits full

end Indenter

end TurtleEdit
