import TurtleEdit.Proofs.Insertion

/-!
A space or a tab at the start of a line makes room on the canvas and does nothing else.

This asks that nothing that is painted reaches over the start of the line. For a long string it has
to be assumed; every other standard rule paints inside one line, also where its match reaches over
the end of a line. So the spans of a text, read off the text, stay the same with the new character.
-/

namespace TurtleEdit

/-! ## Room on a canvas -/

/-- The part lies behind the cut, or before the character that the cut follows. -/
def Beside (cut : Nat) (part : Nat × Nat) : Prop := part.2 < cut ∨ cut ≤ part.1

theorem beside_moved_iff {cut start stop : Nat} :
    Beside cut (moved cut start, moved cut stop) ↔ Beside cut (start, stop) := by
  unfold Beside moved
  split <;> split <;> omega

theorem insertIdx_append_length {α : Type} (left right : List α) (item : α) :
    (left ++ right).insertIdx left.length item = left ++ item :: right := by
  induction left with
  | nil => rfl
  | cons first others ih =>
    rw [List.cons_append, List.length_cons, List.insertIdx_succ_cons, ih, List.cons_append]

theorem eq_or_exists_moved (cut i : Nat) : i = cut ∨ ∃ j, i = moved cut j := by
  rcases Nat.lt_trichotomy i cut with before | here | behind
  · exact Or.inr ⟨i, (moved_of_lt before).symm⟩
  · exact Or.inl here
  · exact Or.inr ⟨i - 1, by rw [moved_of_le (by omega)]; omega⟩

namespace Canvas

theorem getElem?_insertIdx_moved (canvas : Canvas) (cut i : Nat) :
    (canvas.insertIdx cut none)[moved cut i]? = canvas[i]? := by
  unfold moved
  split
  · next before => exact List.getElem?_insertIdx_of_lt before
  · next behind => exact List.getElem?_insertIdx_of_gt (by omega)

theorem fill_insertIdx {canvas : Canvas} {cut start stop : Nat}
    (beside : Beside cut (start, stop)) (style : Style) (overrides : Bool) :
    fill (canvas.insertIdx cut none) (moved cut start) (moved cut stop) style overrides =
      (canvas.fill start stop style overrides).insertIdx cut none := by
  apply List.ext_getElem?
  intro i
  rcases eq_or_exists_moved cut i with rfl | ⟨j, rfl⟩
  · have outside : i < moved i start ∨ moved i stop ≤ i := by
      unfold moved Beside at *
      split <;> split <;> omega
    rw [getElem?_fill_of_outside _ _ _ outside, List.getElem?_insertIdx_self,
      List.getElem?_insertIdx_self, length_fill]
  · have low : moved cut start ≤ moved cut j ↔ start ≤ j := by
      unfold moved
      split <;> split <;> omega
    have high : moved cut j < moved cut stop ↔ j < stop := by
      unfold moved
      split <;> split <;> omega
    rw [getElem?_fill, getElem?_insertIdx_moved, getElem?_insertIdx_moved, getElem?_fill]
    simp only [low, high]

end Canvas

namespace Rule

theorem target_moved (rule : Rule) (cut : Nat) (found : Match) :
    rule.target (found.moved cut) =
      (rule.target found).map fun part => (moved cut part.1, moved cut part.2) := by
  unfold target
  split <;> rfl

/-- What is painted of a match does not begin before the match. -/
theorem le_of_target_place {rule : Rule} {hit : Hit} {pos : Nat} {part : Nat × Nat}
    (aims : rule.target (hit.place pos) = some part) : pos ≤ part.1 := by
  unfold target at aims
  split at aims
  · cases aims
    exact Nat.le_refl _
  · obtain ⟨old, -, rfl⟩ := Option.map_eq_some_iff.mp aims
    exact Nat.le_add_right _ _

/-- Painting beside a cut does not mind the room at the cut. -/
theorem paint_insertIdx (rule : Rule) (canvas : Canvas) {cut : Nat} {found : Match}
    (beside : ∀ part, rule.target found = some part → Beside cut part) :
    rule.paint (canvas.insertIdx cut none) (found.moved cut) =
      (rule.paint canvas found).insertIdx cut none := by
  unfold paint
  rw [target_moved]
  cases aims : rule.target found with
  | none => rfl
  | some part =>
    dsimp only [Option.map_some]
    rw [Canvas.getElem?_insertIdx_moved, Canvas.fill_insertIdx (beside part aims)]
    split <;> rfl

theorem foldl_paint_insertIdx (rule : Rule) {found : List Match} {cut : Nat} (canvas : Canvas)
    (beside : ∀ m ∈ found, ∀ part, rule.target m = some part → Beside cut part) :
    (found.map (Match.moved cut)).foldl rule.paint (canvas.insertIdx cut none) =
      (found.foldl rule.paint canvas).insertIdx cut none := by
  induction found generalizing canvas with
  | nil => rfl
  | cons first rest ih =>
    rw [List.map_cons, List.foldl_cons, List.foldl_cons,
      paint_insertIdx rule canvas (beside first List.mem_cons_self)]
    exact ih _ fun m later => beside m (List.mem_cons_of_mem _ later)

end Rule

/-! ## What the rules paint at the start of a line -/

/-- The characters of a text from `start` up to `stop`. -/
def slice (text : Text) (start stop : Nat) : Text := (text.drop start).take (stop - start)

theorem mem_slice {text : Text} {start stop i : Nat} {c : Char} (here : text[i]? = some c)
    (low : start ≤ i) (high : i < stop) : c ∈ slice text start stop := by
  refine List.mem_iff_getElem?.mpr ⟨i - start, ?_⟩
  rw [slice, List.getElem?_take_of_lt (by omega), List.getElem?_drop, Nat.add_sub_cancel' low]
  exact here

theorem slice_append_of_le {front : Text} {start stop : Nat} (inside : stop ≤ front.length)
    (rest : Text) : slice (front ++ rest) start stop = slice front start stop := by
  rw [slice, slice, ← List.drop_take, ← List.drop_take, List.take_append_of_le_length inside]

theorem slice_insert_of_le {front : Text} {start : Nat} (behind : front.length ≤ start)
    (stop : Nat) (b : Char) (rest : Text) :
    slice (front ++ b :: rest) (1 + start) (1 + stop) = slice (front ++ rest) start stop := by
  obtain ⟨k, rfl⟩ : ∃ k, start = front.length + k := ⟨start - front.length, by omega⟩
  have skipped : 1 + (front.length + k) = front.length + (k + 1) := by omega
  rw [slice, slice, Nat.add_sub_add_left, skipped, List.drop_length_add_append,
    List.drop_length_add_append, List.drop_succ_cons]

/-- A part beside a cut holds the same characters when one is put in at the cut. -/
theorem slice_insert {front : Text} {start stop : Nat} (beside : Beside front.length (start, stop))
    (b : Char) (rest : Text) :
    slice (front ++ b :: rest) (moved front.length start) (moved front.length stop) =
      slice (front ++ rest) start stop := by
  by_cases near : stop ≤ start
  · have empty : moved front.length stop ≤ moved front.length start := by
      unfold moved
      split <;> split <;> omega
    rw [slice, slice, Nat.sub_eq_zero_of_le near, Nat.sub_eq_zero_of_le empty, List.take_zero,
      List.take_zero]
  rcases beside with before | behind
  · dsimp only at before
    rw [moved_of_lt before, moved_of_lt (by omega), slice_append_of_le (Nat.le_of_lt before),
      slice_append_of_le (Nat.le_of_lt before)]
  · dsimp only at behind
    rw [moved_of_le behind, moved_of_le (by omega), Nat.add_comm start, Nat.add_comm stop,
      slice_insert_of_le behind]

/-- No long string that the pattern finds holds a line feed. -/
def LongStringsInLine (text : Text) : Prop :=
  ∀ m ∈ Pattern.longString.matchesIn none text, '\n' ∉ slice text m.start m.stop

instance (text : Text) : Decidable (LongStringsInLine text) :=
  inferInstanceAs (Decidable (∀ m ∈ Pattern.longString.matchesIn none text, _))

section LineStart

variable {front : Text} (line : LineFront front) {rest : Text}

include line

theorem beside_of_slice {start stop : Nat}
    (clean : '\n' ∉ slice (front ++ rest) start stop) : Beside front.length (start, stop) := by
  rcases line with rfl | ⟨text, rfl⟩
  · exact Or.inr (Nat.zero_le _)
  · by_contra reaches
    have feed : (text ++ ['\n'] ++ rest)[text.length]? = some '\n' := by simp
    simp only [Beside, List.length_append, List.length_singleton] at reaches
    exact clean (mem_slice feed (by omega) (by omega))

/-- What a rule paints lies on one side of the start of a line. -/
theorem Rule.beside_of_mem_matchesIn {rule : Rule} (solid : rule.pattern.solid = true)
    (inside : rule.pattern = .declaredNamespace → rule.group ≠ 0)
    (inLine : LongStringsInLine (front ++ rest)) {m : Match}
    (member : m ∈ rule.pattern.matchesIn none (front ++ rest)) {part : Nat × Nat}
    (aims : rule.target m = some part) : Beside front.length part := by
  obtain ⟨k, hit, here, rfl, -⟩ := Pattern.hit_of_mem_matchesFrom member
  rw [Nat.zero_add] at aims
  rcases Pattern.lineBound_of_solid solid with strings | bound
  · have whole : part = (k, k + hit.length) := by
      rw [strings] at here
      obtain ⟨after, n, -, -, rfl⟩ := Pattern.hit_longString_iff.mp here
      unfold Rule.target at aims
      split at aims
      · exact (Option.some.inj aims).symm
      · cases aims
    rw [whole]
    rw [strings] at member
    have clean := inLine _ member
    rw [Nat.zero_add] at clean
    exact beside_of_slice line clean
  rcases line with rfl | ⟨text, rfl⟩
  · exact Or.inr (Nat.zero_le _)
  have size : (text ++ ['\n']).length = text.length + 1 := by simp
  rw [size]
  by_cases near : k ≤ text.length
  · rw [List.append_assoc, List.singleton_append, List.drop_append_of_le_length near] at here
    by_cases isOpen : rule.pattern = .declaredNamespace ∧ OpenDeclaration (text.drop k)
    · -- the match reaches over the line feed, but its group comes after it
      obtain ⟨declares, blanks, allBlank, opens⟩ := isOpen
      have length := congrArg List.length opens
      rw [declares, opens, Pattern.hit_declaredNamespace_of_open allBlank] at here
      obtain ⟨n, -, rfl⟩ := Option.map_eq_some_iff.mp here
      rw [Rule.target, if_neg (inside declares)] at aims
      cases aims
      rw [List.length_drop] at length
      refine Or.inr ?_
      dsimp only
      omega
    · have closed : rule.pattern = .declaredNamespace → ¬ OpenDeclaration (text.drop k) :=
        fun declares opens => isOpen ⟨declares, opens⟩
      rw [Pattern.hit_append_newline bound _ closed] at here
      have bounds := Rule.target_within ((Pattern.hit_within here).place k) aims
      rw [List.length_drop] at bounds
      refine Or.inl ?_
      omega
  · have starts := Rule.le_of_target_place aims
    refine Or.inr ?_
    omega

end LineStart

/-! ## Canvases -/

/-- Rules that find no blank first and paint inside one line, if long strings lie in one. -/
def PaintsInLine (rules : List Rule) : Prop :=
  ∀ rule ∈ rules, rule.pattern.solid = true ∧
    (rule.pattern = .declaredNamespace → rule.group ≠ 0)

theorem paintsInLine_standardRules : PaintsInLine standardRules := by
  unfold PaintsInLine
  decide

section Coats

variable {rules : List Rule} (table : PaintsInLine rules) {front : Text} (line : LineFront front)
  {rest : Text} (inLine : LongStringsInLine (front ++ rest))

include table line inLine

theorem foldl_coat_insert {b : Char} (indents : isIndent b = true) (canvas : Canvas) :
    rules.foldl (fun canvas rule => rule.coat none (front ++ b :: rest) canvas)
        (canvas.insertIdx front.length none) =
      (rules.foldl (fun canvas rule => rule.coat none (front ++ rest) canvas) canvas).insertIdx
        front.length none := by
  induction rules generalizing canvas with
  | nil => rfl
  | cons rule others ih =>
    obtain ⟨solid, inside⟩ := table rule List.mem_cons_self
    have first : rule.coat none (front ++ b :: rest) (canvas.insertIdx front.length none) =
        (rule.coat none (front ++ rest) canvas).insertIdx front.length none := by
      unfold Rule.coat
      rw [Pattern.matchesIn_insert solid line indents]
      exact rule.foldl_paint_insertIdx canvas fun m member part aims =>
        Rule.beside_of_mem_matchesIn line solid inside inLine member aims
    rw [List.foldl_cons, List.foldl_cons, first]
    exact ih (fun other later => table other (List.mem_cons_of_mem _ later)) _

/-- A space or a tab at the start of a line gets an unpainted character on the canvas, and no other
character is painted in another way. -/
theorem coats_insert {b : Char} (indents : isIndent b = true) :
    coats rules (front ++ b :: rest) =
      (coats rules (front ++ rest)).insertIdx front.length none := by
  have empty : Canvas.empty (front ++ b :: rest).length =
      (Canvas.empty (front ++ rest).length).insertIdx front.length none := by
    rw [List.length_append, List.length_append, List.length_cons,
      Canvas.empty_add front.length rest.length, Canvas.empty_add front.length (rest.length + 1)]
    have room := insertIdx_append_length (Canvas.empty front.length) (Canvas.empty rest.length) none
    rw [Canvas.length_empty] at room
    exact room.symm
  rw [coats, empty, foldl_coat_insert table line inLine indents]
  rfl

/-- The line feed before the start of a line is not painted. -/
theorem getElem?_coats_lineFeed {i : Nat} (last : i + 1 = front.length) :
    (coats rules (front ++ rest))[i]? = some none := by
  have bound : i < (front ++ rest).length := by
    rw [List.length_append]
    omega
  have start : (Canvas.empty (front ++ rest).length)[i]? = some none := by
    rw [Canvas.empty, List.getElem?_replicate, if_pos bound]
  unfold coats
  generalize Canvas.empty (front ++ rest).length = canvas at start
  induction rules generalizing canvas with
  | nil => exact start
  | cons rule others ih =>
    obtain ⟨solid, inside⟩ := table rule List.mem_cons_self
    refine ih (fun other later => table other (List.mem_cons_of_mem _ later)) _ ?_
    refine (rule.getElem?_foldl_paint_of_outside canvas fun m member part aims => ?_).trans start
    have beside := Rule.beside_of_mem_matchesIn line solid inside inLine member aims
    unfold Beside at beside
    omega

end Coats

/-! ## Tokens -/

/-- A span as it is read off a text: its style and its characters. -/
def Span.read (text : Text) (span : Span) : Style × Text :=
  (span.style, slice text span.start span.stop)

/-- The spans of a canvas read the same with room made at the start of a line. -/
theorem Canvas.read_spans_insertIdx {front : Text} (line : LineFront front) (b : Char)
    (rest : Text) {canvas : Canvas} (free : ∀ i, i + 1 = front.length → canvas[i]? = some none) :
    (Canvas.spans 0 (canvas.insertIdx front.length none)).map (Span.read (front ++ b :: rest)) =
      (canvas.spans 0).map (Span.read (front ++ rest)) := by
  have later : ∀ {right : Canvas},
      (right.spans (front.length + 1)).map (Span.read (front ++ b :: rest)) =
        (right.spans front.length).map (Span.read (front ++ rest)) := by
    intro right
    rw [Nat.add_comm, Canvas.spans_add, List.map_map]
    refine List.map_congr_left fun span member => congrArg (Prod.mk span.style) ?_
    exact slice_insert_of_le (Canvas.bounds_of_mem_spans member).1 span.stop b rest
  rcases line with rfl | ⟨text, rfl⟩
  · exact later
  have size : (text ++ ['\n']).length = text.length + 1 := by simp
  rw [size] at free later ⊢
  have cell := drop_eq_cons_of_getElem? (free text.length rfl)
  have length : (canvas.take text.length).length = text.length := by
    obtain ⟨bound, -⟩ := List.getElem?_eq_some_iff.mp (free text.length rfl)
    rw [List.length_take]
    omega
  obtain ⟨left, right, split, leftSize⟩ :
      ∃ left right : Canvas, canvas = left ++ none :: right ∧ left.length = text.length :=
    ⟨canvas.take text.length, canvas.drop (text.length + 1),
      by rw [← cell, List.take_append_drop], length⟩
  have room : canvas.insertIdx (text.length + 1) none = left ++ none :: none :: right := by
    have inserted := insertIdx_append_length (left ++ [none]) right none
    rw [List.length_append, leftSize] at inserted
    simpa [split] using inserted
  rw [room, split, Canvas.spans_append_none, Canvas.spans_append_none, List.map_append,
    List.map_append, Nat.zero_add, leftSize]
  refine congrArg₂ (· ++ ·) (List.map_congr_left fun span member => ?_) later
  have bounds := Canvas.bounds_of_mem_spans member
  have inside : span.stop ≤ (text ++ ['\n']).length := by omega
  rw [Span.read, Span.read, slice_append_of_le inside, slice_append_of_le inside]

/-- What a text is highlighted as: the styles of its spans in order, with their characters. -/
def tokens (text : Text) : List (Style × Text) :=
  ((coats standardRules text).spans 0).map (Span.read text)

theorem tokens_insert {front : Text} (line : LineFront front) {rest : Text}
    (inLine : LongStringsInLine (front ++ rest)) {b : Char} (indents : isIndent b = true) :
    tokens (front ++ b :: rest) = tokens (front ++ rest) := by
  have table := paintsInLine_standardRules
  rw [tokens, coats_insert table line inLine indents]
  exact Canvas.read_spans_insertIdx line b rest fun i last =>
    getElem?_coats_lineFeed table line inLine last

/-- Long strings lie in one line with a space or a tab at the start of a line if they do without
it. -/
theorem longStringsInLine_insert {front : Text} (line : LineFront front) {b : Char}
    (indents : isIndent b = true) (rest : Text) :
    LongStringsInLine (front ++ b :: rest) ↔ LongStringsInLine (front ++ rest) := by
  unfold LongStringsInLine
  rw [Pattern.matchesIn_insert rfl line indents, List.forall_mem_map]
  refine forall₂_congr fun m _ => ?_
  constructor
  · intro clean
    have beside := beside_of_slice line clean
    rwa [Match.moved, slice_insert (beside_moved_iff.mp beside)] at clean
  · intro clean
    rwa [Match.moved, slice_insert (beside_of_slice line clean)]

end TurtleEdit
