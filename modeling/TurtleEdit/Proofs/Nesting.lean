import TurtleEdit.Proofs.FixedPoint

/-!
Placing lines one below the other computes how deeply they are nested.

A document is a sequence of statements, a statement holds elements, and elements are plain lines,
blocks and object lists; blocks hold elements one level deeper. The grammar gives every line of a
document its depth. Placing a line sees the line above and whether that one follows a list item, and
this little is enough to find the depth.

What carries the proof is the place between two elements. There the line above is no list item, and
a line that closes nothing goes to the level of the elements around it. After an object list the
line above stands one level deeper than the list, so there a closing line would go astray; this is
why no block may end in one.
-/

namespace TurtleEdit

/-! ## Documents -/

/-- A line with its depth. -/
structure LineAt where
  line : Text
  depth : Nat
  deriving DecidableEq, Repr

/-- The parts of a statement. -/
inductive Part where
  /-- One element, which is an object list or not. -/
  | element (isList : Bool)
  /-- Elements in a row; whether the last of them is an object list, if there is one. -/
  | elements (last : Option Bool)
  /-- What follows the line that opens a block. -/
  | blockRest
  deriving DecidableEq, Repr

/-- The lines that form a part at a level. -/
inductive Forms : Part → Nat → List LineAt → Prop where
  | plain {level : Nat} {line : Text} (stays : closesNode line = false)
      (shape : lineShape line = .continuation ∨ lineShape line = .other) :
      Forms (.element false) level [⟨line, level⟩]
  | block {level : Nat} {opener : Text} {rest : List LineAt} (stays : closesNode opener = false)
      (shape : lineShape opener = .blockOpen) (inner : Forms .blockRest level rest) :
      Forms (.element false) level (⟨opener, level⟩ :: rest)
  | list {level : Nat} {first : Text} {items : List Text} {last : Text}
      (shapes : ∀ item ∈ first :: items, lineShape item = .listItem ∧ closesNode item = false)
      (shape : lineShape last = .continuation) (stays : closesNode last = false) :
      Forms (.element true) level
        (⟨first, level⟩ :: (items ++ [last]).map fun line => ⟨line, level + 1⟩)
  | none {level : Nat} : Forms (.elements none) level []
  | more {level : Nat} {before lines : List LineAt} {last : Option Bool} {isList : Bool}
      (others : Forms (.elements last) level before) (next : Forms (.element isList) level lines) :
      Forms (.elements (some isList)) level (before ++ lines)
  | close {level : Nat} {inner : List LineAt} {last : Text}
      (body : Forms (.elements (some false)) (level + 1) inner) (closes : closesNode last = true)
      (shape : lineShape last = .continuation ∨ lineShape last = .blockClose) :
      Forms .blockRest level (inner ++ [⟨last, level⟩])
  | chain {level : Nat} {inner rest : List LineAt} {link : Text}
      (body : Forms (.elements (some false)) (level + 1) inner) (closes : closesNode link = true)
      (shape : lineShape link = .blockOpen) (next : Forms .blockRest level rest) :
      Forms .blockRest level (inner ++ ⟨link, level⟩ :: rest)

/-- The lines that form a statement. -/
inductive Statement : List LineAt → Prop where
  | described {header last : Text} {inner : List LineAt} {lastList : Option Bool}
      (headed : lineShape header = .header) (body : Forms (.elements lastList) 1 inner)
      (ends : lineShape last = .statementEnd) :
      Statement (⟨header, 0⟩ :: (inner ++ [⟨last, 1⟩]))
  | lone {line : Text} (ends : lineShape line = .statementEnd) : Statement [⟨line, 0⟩]

/-- The lines that form a document: statements, with other lines before, between and after them. -/
inductive Document : List LineAt → Prop where
  | empty : Document []
  | statement {before lines : List LineAt} (others : Document before) (next : Statement lines) :
      Document (before ++ lines)
  | other {before : List LineAt} {line : Text} (others : Document before)
      (shape : lineShape line = .other) : Document (before ++ [⟨line, 0⟩])

/-! ## The place between two lines -/

/-- All that placing the next line looks at: the line above, its column, and whether it follows a
list item. -/
structure Cursor where
  afterItem : Bool
  above : Text
  column : Int

namespace Cursor

variable (indenter : Indenter) (cursor : Cursor)

/-- The column of a line at this place. -/
def below (line : Text) : Int :=
  indenter.below cursor.afterItem cursor.above cursor.column line

/-- The place below the next line. -/
def next (line : Text) : Cursor := ⟨isItem cursor.above, line, cursor.below indenter line⟩

/-- The place below the lines that come next. -/
def after (lines : List LineAt) : Cursor :=
  lines.foldl (fun cursor nested => cursor.next indenter nested.line) cursor

/-- The lines that come next are placed at their depths. -/
def Places (lines : List LineAt) : Prop :=
  indenter.planBelow cursor.afterItem cursor.above cursor.column (lines.map (·.line)) =
    lines.map fun nested => indenter.width * nested.depth

variable {indenter cursor}

theorem places_nil : cursor.Places indenter [] := rfl

theorem places_cons {line : Text} {depth : Nat} {rest : List LineAt}
    (here : cursor.below indenter line = indenter.width * depth)
    (later : (cursor.next indenter line).Places indenter rest) :
    cursor.Places indenter (⟨line, depth⟩ :: rest) :=
  List.cons_eq_cons.mpr ⟨here, later⟩

theorem places_append {lines rest : List LineAt} (first : cursor.Places indenter lines)
    (later : (cursor.after indenter lines).Places indenter rest) :
    cursor.Places indenter (lines ++ rest) := by
  induction lines generalizing cursor with
  | nil => exact later
  | cons nested lines ih =>
    obtain ⟨here, restPlaced⟩ := List.cons.inj first
    exact places_cons here (ih restPlaced later)

@[simp] theorem after_cons (line : Text) (depth : Nat) (rest : List LineAt) :
    cursor.after indenter (⟨line, depth⟩ :: rest) =
      (cursor.next indenter line).after indenter rest := rfl

@[simp] theorem after_append (lines rest : List LineAt) :
    cursor.after indenter (lines ++ rest) = (cursor.after indenter lines).after indenter rest :=
  List.foldl_append

/-! ## Levels -/

/-- Between elements at a level: the line above is no list item, and a line that closes nothing goes
to the level. -/
structure Opens (indenter : Indenter) (cursor : Cursor) (level : Nat) : Prop where
  noItem : isItem cursor.above = false
  under : indenter.under (lineShape cursor.above) cursor.afterItem cursor.column =
    indenter.width * level

theorem below_of_stays {line : Text} {column : Int} (stays : closesNode line = false)
    (under : indenter.under (lineShape cursor.above) cursor.afterItem cursor.column = column)
    (nonneg : 0 ≤ column) : cursor.below indenter line = column :=
  Indenter.below_of_stays stays under nonneg

theorem below_of_closes {line : Text} {column : Int} (closes : closesNode line = true)
    (stands : cursor.column = column + indenter.width) (nonneg : 0 ≤ column) :
    cursor.below indenter line = column := by
  rw [below, Indenter.below, closes, stands, Int.add_sub_cancel]
  exact Int.max_eq_right nonneg

theorem width_mul_succ (indenter : Indenter) (level : Nat) :
    indenter.width * ((level + 1 : Nat) : Int) = indenter.width * level + indenter.width := by
  rw [Int.natCast_succ, Int.mul_add, Int.mul_one]

theorem width_mul_nonneg (width : 0 ≤ indenter.width) (level : Nat) :
    0 ≤ indenter.width * (level : Int) := Int.mul_nonneg width (Int.natCast_nonneg level)

/-- Below a line that opens or lists nothing the level is its own. -/
theorem opens_next {line : Text} {level : Nat} (noItem : isItem cursor.above = false)
    (stands : cursor.below indenter line = indenter.width * level)
    (shape : lineShape line = .continuation ∨ lineShape line = .blockClose ∨
      lineShape line = .other) : (cursor.next indenter line).Opens indenter level := by
  rcases shape with shape | shape | shape
  · refine ⟨isItem_of_lineShape shape (by decide), ?_⟩
    simp only [next, shape, noItem, Indenter.under, stands, Bool.false_eq_true, if_false]
  · refine ⟨isItem_of_lineShape shape (by decide), ?_⟩
    simp only [next, shape, Indenter.under, stands]
  · refine ⟨isItem_of_lineShape shape (by decide), ?_⟩
    simp only [next, shape, Indenter.under, stands]

/-- Below a line that opens something the level is one deeper. -/
theorem opens_next_succ {line : Text} {level : Nat}
    (stands : cursor.below indenter line = indenter.width * level)
    (shape : lineShape line = .blockOpen ∨ lineShape line = .header) :
    (cursor.next indenter line).Opens indenter (level + 1) := by
  rcases shape with shape | shape
  · refine ⟨isItem_of_lineShape shape (by decide), ?_⟩
    simp only [next, shape, Indenter.under, stands, width_mul_succ]
  · refine ⟨isItem_of_lineShape shape (by decide), ?_⟩
    simp only [next, shape, Indenter.under, stands, width_mul_succ]

/-- The items after the first one and the last line stand one level deeper than the list, and below
them the level is that of the list. -/
theorem places_items (width : 0 ≤ indenter.width) {level : Nat} {items : List Text} {last : Text}
    (item : lineShape cursor.above = .listItem)
    (under : indenter.under (lineShape cursor.above) cursor.afterItem cursor.column =
      indenter.width * (level + 1 : Nat))
    (shapes : ∀ item ∈ items, lineShape item = .listItem ∧ closesNode item = false)
    (shape : lineShape last = .continuation) (stays : closesNode last = false) :
    cursor.Places indenter ((items ++ [last]).map fun line => ⟨line, level + 1⟩) ∧
      (cursor.after indenter ((items ++ [last]).map fun line => ⟨line, level + 1⟩)).Opens
        indenter level := by
  have nonneg := width_mul_nonneg width (level + 1)
  induction items generalizing cursor with
  | nil =>
    have afterItem : isItem cursor.above = true := decide_eq_true item
    have stands := below_of_stays stays under nonneg
    refine ⟨places_cons stands places_nil, isItem_of_lineShape shape (by decide), ?_⟩
    simp only [List.nil_append, List.map_cons, List.map_nil, after, List.foldl_cons,
      List.foldl_nil, next, shape, afterItem, Indenter.under, stands, if_true, width_mul_succ]
    omega
  | cons second items ih =>
    obtain ⟨secondShape, secondStays⟩ := shapes second List.mem_cons_self
    have afterItem : isItem cursor.above = true := decide_eq_true item
    have stands := below_of_stays secondStays under nonneg
    have secondUnder : indenter.under (lineShape (cursor.next indenter second).above)
        (cursor.next indenter second).afterItem (cursor.next indenter second).column =
        indenter.width * (level + 1 : Nat) := by
      simp only [next, secondShape, Indenter.under, afterItem, if_true, stands]
    obtain ⟨placed, opens⟩ := ih secondShape secondUnder
      fun later member => shapes later (List.mem_cons_of_mem _ member)
    exact ⟨places_cons stands placed, opens⟩

end Cursor

namespace Part

/-- The level of the elements that a part begins with. -/
def innerLevel (level : Nat) : Part → Nat
  | element _ | elements _ => level
  | blockRest => level + 1

/-- The last line of the part stands at the level of the part. -/
def endsFlush : Part → Bool
  | element isList => !isList
  | elements last => last == some false
  | blockRest => true

end Part

/-- Between elements the lines of a part are placed at their depths, and below them the level is
that of the part. -/
theorem Forms.places {indenter : Indenter} (width : 0 ≤ indenter.width) {part : Part}
    {level : Nat} {lines : List LineAt} (forms : Forms part level lines) {cursor : Cursor}
    (opens : cursor.Opens indenter (part.innerLevel level)) :
    cursor.Places indenter lines ∧ (cursor.after indenter lines).Opens indenter level ∧
      (part.endsFlush = true →
        (cursor.after indenter lines).column = indenter.width * level) := by
  induction forms generalizing cursor with
  | @plain level line stays shape =>
    have stands := Cursor.below_of_stays stays opens.under (Cursor.width_mul_nonneg width level)
    exact ⟨Cursor.places_cons stands Cursor.places_nil,
      Cursor.opens_next opens.noItem stands (shape.imp_right Or.inr), fun _ => stands⟩
  | @block level opener rest stays shape inner ih =>
    have stands := Cursor.below_of_stays stays opens.under (Cursor.width_mul_nonneg width level)
    obtain ⟨placed, restOpens, flush⟩ := ih (Cursor.opens_next_succ stands (Or.inl shape))
    exact ⟨Cursor.places_cons stands placed, restOpens, fun _ => flush rfl⟩
  | @list level first items last shapes shape stays =>
    obtain ⟨firstShape, firstStays⟩ := shapes first List.mem_cons_self
    have stands := Cursor.below_of_stays firstStays opens.under
      (Cursor.width_mul_nonneg width level)
    have under : indenter.under (lineShape (cursor.next indenter first).above)
        (cursor.next indenter first).afterItem (cursor.next indenter first).column =
        indenter.width * (level + 1 : Nat) := by
      simp only [Cursor.next, firstShape, opens.noItem, Indenter.under, stands,
        Bool.false_eq_true, if_false, Cursor.width_mul_succ, Part.innerLevel]
    obtain ⟨placed, itemsOpens⟩ := Cursor.places_items width firstShape under
      (fun item member => shapes item (List.mem_cons_of_mem _ member)) shape stays
    exact ⟨Cursor.places_cons stands placed, itemsOpens, fun flush => nomatch flush⟩
  | none => exact ⟨Cursor.places_nil, opens, fun flush => nomatch flush⟩
  | more others next ihOthers ihNext =>
    obtain ⟨placed, othersOpens, -⟩ := ihOthers opens
    obtain ⟨nextPlaced, nextOpens, flush⟩ := ihNext othersOpens
    rw [Cursor.after_append]
    refine ⟨Cursor.places_append placed nextPlaced, nextOpens, fun flat => flush ?_⟩
    simpa [Part.endsFlush] using flat
  | @close level inner last body closes shape ih =>
    obtain ⟨placed, innerOpens, flush⟩ := ih opens
    have stands := Cursor.below_of_closes closes
      ((flush rfl).trans (Cursor.width_mul_succ indenter level))
      (Cursor.width_mul_nonneg width level)
    rw [Cursor.after_append]
    exact ⟨Cursor.places_append placed (Cursor.places_cons stands Cursor.places_nil),
      Cursor.opens_next innerOpens.noItem stands (shape.imp_right Or.inl), fun _ => stands⟩
  | @chain level inner rest link body closes shape next ihBody ihNext =>
    obtain ⟨placed, innerOpens, flush⟩ := ihBody opens
    have stands := Cursor.below_of_closes closes
      ((flush rfl).trans (Cursor.width_mul_succ indenter level))
      (Cursor.width_mul_nonneg width level)
    obtain ⟨nextPlaced, nextOpens, nextFlush⟩ := ihNext
      (Cursor.opens_next_succ stands (Or.inl shape))
    rw [Cursor.after_append]
    exact ⟨Cursor.places_append placed (Cursor.places_cons stands nextPlaced), nextOpens,
      nextFlush⟩

/-! ## Between statements -/

namespace Cursor

variable {indenter : Indenter} {cursor : Cursor}

/-- Between statements: the line above is no list item, and every line goes to the first column. -/
structure Top (indenter : Indenter) (cursor : Cursor) : Prop where
  noItem : isItem cursor.above = false
  below : ∀ line, cursor.below indenter line = indenter.width * (0 : Nat)

/-- The place before the first line is like one below the end of a statement. -/
def start : Cursor := ⟨false, ['.'], 0⟩

theorem top_of_column {shape : LineShape} (has : lineShape cursor.above = shape)
    (other : shape ≠ .listItem) (near : cursor.column ≤ indenter.width)
    (under : indenter.under shape cursor.afterItem cursor.column = 0) : cursor.Top indenter := by
  refine ⟨isItem_of_lineShape has other, fun line => ?_⟩
  rw [Cursor.below, Indenter.below, has, under]
  split
  · rw [Int.max_eq_left (by omega)]
    simp
  · simp

theorem top_start (width : 0 ≤ indenter.width) : start.Top indenter := by
  have ends : lineShape start.above = .statementEnd := by decide +kernel
  exact top_of_column ends (by decide) width rfl

end Cursor

/-- Between statements the lines of a statement are placed at their depths. -/
theorem Statement.places {indenter : Indenter} (width : 0 ≤ indenter.width) {lines : List LineAt}
    (statement : Statement lines) {cursor : Cursor} (top : cursor.Top indenter) :
    cursor.Places indenter lines ∧ (cursor.after indenter lines).Top indenter := by
  cases statement with
  | @described header last inner _ headed body ends =>
    have headerStands := top.below header
    obtain ⟨placed, opens, -⟩ := body.places width
      (Cursor.opens_next_succ headerStands (Or.inr headed))
    have lastStands := Cursor.below_of_stays (closesNode_of_statementEnd ends) opens.under
      (Cursor.width_mul_nonneg width 1)
    refine ⟨Cursor.places_cons headerStands
      (Cursor.places_append placed (Cursor.places_cons lastStands Cursor.places_nil)), ?_⟩
    rw [Cursor.after_cons, Cursor.after_append]
    refine Cursor.top_of_column ends (by decide) ?_ rfl
    exact Int.le_of_eq (lastStands.trans (Int.mul_one _))
  | @lone line ends =>
    have stands := top.below line
    refine ⟨Cursor.places_cons stands Cursor.places_nil, ?_⟩
    refine Cursor.top_of_column ends (by decide) ?_ rfl
    exact Int.le_trans (Int.le_of_eq (stands.trans (Int.mul_zero _))) width

/-- The lines of a document are placed at their depths. -/
theorem Document.places {indenter : Indenter} (width : 0 ≤ indenter.width) {lines : List LineAt}
    (document : Document lines) :
    Cursor.start.Places indenter lines ∧ (Cursor.start.after indenter lines).Top indenter := by
  induction document with
  | empty => exact ⟨Cursor.places_nil, Cursor.top_start width⟩
  | statement others next ih =>
    obtain ⟨placed, top⟩ := ih
    obtain ⟨nextPlaced, nextTop⟩ := next.places width top
    rw [Cursor.after_append]
    exact ⟨Cursor.places_append placed nextPlaced, nextTop⟩
  | @other before line others shape ih =>
    obtain ⟨placed, top⟩ := ih
    have stands := top.below line
    have column := stands.trans (Int.mul_zero _)
    rw [Cursor.after_append]
    refine ⟨Cursor.places_append placed (Cursor.places_cons stands Cursor.places_nil), ?_⟩
    exact Cursor.top_of_column shape (by decide) (Int.le_trans (Int.le_of_eq column) width) column

/-- The plan of a document puts every line at its depth. -/
theorem Document.plan_eq {indenter : Indenter} (width : 0 ≤ indenter.width) {lines : List LineAt}
    (document : Document lines) :
    indenter.plan (lines.map (·.line)) = lines.map fun nested => indenter.width * nested.depth := by
  rw [← (document.places width).1]
  cases lines with
  | nil => rfl
  | cons first rest =>
    obtain ⟨noItem, below⟩ := Cursor.top_start width
    have here : indenter.below Cursor.start.afterItem Cursor.start.above Cursor.start.column
        first.line = 0 := (below first.line).trans (Int.mul_zero _)
    simp only [List.map_cons, Indenter.plan, Indenter.planBelow, here, noItem]

/-- The plan of a document's lines puts each in the column of its depth, whatever the indentation
was. Where all lines fit, they are placed so; where one does not, it is the fault. -/
theorem Indenter.indentRegion_places_document (indenter : Indenter) (width : 0 ≤ indenter.width)
    {lines : List LineAt} (document : Document lines) (buffer : Buffer)
    (same : buffer.lines = lines.map (·.line)) (tabs : 1 ≤ buffer.tabWidth) :
    let columns := lines.map fun nested => indenter.width * nested.depth
    let edit := indenter.indentRegion buffer 0 none
    indenter.plan buffer.lines = columns ∧
      (buffer.FitsAll columns → edit.outcome = .ok columns ∧
        ∀ n c, columns[n]? = some c → edit.buffer.indentation (n : Nat) = .ok c) ∧
      (¬ buffer.FitsAll columns → buffer.Overflows columns edit) := by
  intro columns edit
  have planned : indenter.plan buffer.lines = columns := by rw [same, document.plan_eq width]
  have placed := outcome_of_fitsAll indenter tabs
  have full := overflows_of_not_fitsAll indenter tabs
  rw [planned] at placed full
  exact ⟨planned, fun fits => ⟨placed fits, fun n c => indentAll_stands tabs (placed fits)⟩, full⟩

/-- A block with a link follows an object list, between a comment and an empty line. -/
theorem Indenter.indentRegion_places_document_chain :
    let lines : List LineAt := [⟨"  # a".toList, 0⟩, ⟨"b:c".toList, 0⟩, ⟨"d e ,".toList, 1⟩,
      ⟨"f ;".toList, 2⟩, ⟨"g [".toList, 1⟩, ⟨"\th ;".toList, 2⟩, ⟨"], [".toList, 1⟩,
      ⟨"i ;".toList, 2⟩, ⟨"] ;".toList, 1⟩, ⟨"j .".toList, 1⟩, ⟨"".toList, 0⟩]
    let edit := Indenter.indentRegion ⟨4⟩ ⟨lines.map (·.line), 8, true, .widest⟩ 0 none
    edit.outcome = .ok [0, 0, 4, 8, 4, 8, 4, 8, 4, 4, 0] ∧
      ∀ n c, [0, 0, 4, 8, 4, 8, 4, 8, 4, 4, 0][n]? = some c →
        edit.buffer.indentation (n : Nat) = .ok c := by
  intro lines edit
  have objects := @Forms.list 1 "d e ,".toList [] "f ;".toList (by decide +kernel)
    (by decide +kernel) (by decide +kernel)
  have body := @Forms.more 2 [] _ _ _ .none
    (@Forms.plain 2 "\th ;".toList (by decide +kernel) (by decide +kernel))
  have linked := @Forms.more 2 [] _ _ _ .none
    (@Forms.plain 2 "i ;".toList (by decide +kernel) (by decide +kernel))
  have block := @Forms.block 1 "g [".toList _ (by decide +kernel) (by decide +kernel)
    (@Forms.chain 1 _ _ "], [".toList body (by decide +kernel) (by decide +kernel)
      (@Forms.close 1 _ "] ;".toList linked (by decide +kernel) (by decide +kernel)))
  have statement := @Statement.described "b:c".toList "j .".toList _ _ (by decide +kernel)
    (.more (.more .none objects) block) (by decide +kernel)
  have document : Document lines :=
    @Document.other _ "".toList (.statement (@Document.other [] "  # a".toList .empty
      (by decide +kernel)) statement) (by decide +kernel)
  obtain ⟨-, placed, -⟩ := Indenter.indentRegion_places_document ⟨4⟩ (by decide) document
    ⟨lines.map (·.line), 8, true, .widest⟩ rfl (by decide)
  exact placed (by decide +kernel)

/-- A level so wide that no text reaches over it: the end of a statement cannot be placed in the
column of its depth. -/
theorem Indenter.indentRegion_leaves_document :
    let far : Int := 1000000000000000000000000000000
    let lines : List LineAt := [⟨"a:b".toList, 0⟩, ⟨"c .".toList, 1⟩]
    let edit := Indenter.indentRegion ⟨far⟩ ⟨lines.map (·.line), 8, true, .widest⟩ 0 none
    Document lines ∧ edit.outcome = .error (.tooWide (far * 1)) ∧
      edit.buffer.indentation (1 : Nat) = .ok 0 := by
  intro far lines edit
  have statement := @Statement.described "a:b".toList "c .".toList _ _ (by decide +kernel) .none
    (by decide +kernel)
  exact ⟨.statement .empty statement, by rfl, by rfl⟩

end TurtleEdit
