import TurtleEdit.Proofs.Painting
import TurtleEdit.Proofs.Spans

/-!
The spans of a canvas are its run-length code, and it has no other one.

Spans are in normal form when none is empty, they stand in order without overlap, and two that touch
differ in style. Such a list is told by the characters that it gives a style to: its first span
starts at the first of them and stops where that style does, because the next span would have to
touch it with the same style otherwise. Painted on an empty canvas, spans in normal form give each
character the style of the one span over it. So the spans of a canvas, which are in normal form and
give the canvas back, are the only ones that do.

They are also what a loop finds that goes over the canvas once, comparing each character with the
first of its run, and takes one more step behind the last character to end the last run.
-/

namespace TurtleEdit

/-! ## Normal form -/

/-- Spans that are not empty, stand in order without overlap, and differ in style where they
touch. -/
structure NormalSpans (spans : List Span) : Prop where
  filled : ∀ span ∈ spans, span.start < span.stop
  ordered : spans.Pairwise fun a b => a.stop ≤ b.start
  divided : spans.Pairwise fun a b => a.stop = b.start → a.style ≠ b.style

/-- Some span gives the character at `pos` a style. -/
def CoveredBy (spans : List Span) (pos : Nat) (style : Style) : Prop :=
  ∃ span ∈ spans, span.Covers pos style

namespace NormalSpans

variable {first second : Span} {rest others : List Span}

theorem tail (normal : NormalSpans (first :: rest)) : NormalSpans rest where
  filled span member := normal.filled span (List.mem_cons_of_mem _ member)
  ordered := normal.ordered.of_cons
  divided := normal.divided.of_cons

theorem first_filled (normal : NormalSpans (first :: rest)) : first.start < first.stop :=
  normal.filled first List.mem_cons_self

theorem first_covers (normal : NormalSpans (first :: rest)) :
    CoveredBy (first :: rest) first.start first.style :=
  ⟨first, List.mem_cons_self, rfl, Nat.le_refl _, normal.first_filled⟩

/-- The spans after the first one cover nothing before its end. -/
theorem le_of_covered (normal : NormalSpans (first :: rest)) {pos : Nat} {style : Style}
    (covered : CoveredBy rest pos style) : first.stop ≤ pos := by
  obtain ⟨span, member, -, low, -⟩ := covered
  exact Nat.le_trans ((List.pairwise_cons.mp normal.ordered).1 span member) low

/-- A character is covered by the first span, or by the others and then behind it. -/
theorem covered_cons_iff (normal : NormalSpans (first :: rest)) {pos : Nat} {style : Style} :
    CoveredBy (first :: rest) pos style ↔
      first.Covers pos style ∨ first.stop ≤ pos ∧ CoveredBy rest pos style := by
  constructor
  · rintro ⟨span, member, covers⟩
    rcases List.mem_cons.mp member with rfl | later
    · exact Or.inl covers
    · have inRest : CoveredBy rest pos style := ⟨span, later, covers⟩
      exact Or.inr ⟨normal.le_of_covered inRest, inRest⟩
  · rintro (covers | ⟨-, span, later, covers⟩)
    · exact ⟨first, List.mem_cons_self, covers⟩
    · exact ⟨span, List.mem_cons_of_mem _ later, covers⟩

/-- No covered character comes before the first span. -/
theorem start_le_of_covered (normal : NormalSpans (first :: rest)) {pos : Nat} {style : Style}
    (covered : CoveredBy (first :: rest) pos style) : first.start ≤ pos := by
  have filled := normal.first_filled
  rcases normal.covered_cons_iff.mp covered with covers | ⟨behind, -⟩
  · exact covers.2.1
  · omega

/-- The style of the first span does not go on where it stops. -/
theorem not_covered_stop (normal : NormalSpans (first :: rest)) :
    ¬ CoveredBy (first :: rest) first.stop first.style := by
  intro covered
  rcases normal.covered_cons_iff.mp covered with covers | ⟨-, span, later, same, low, -⟩
  · exact Nat.lt_irrefl _ covers.2.2
  · -- a span of this style over the stop starts at the stop, so it touches the first one
    have behind := (List.pairwise_cons.mp normal.ordered).1 span later
    exact (List.pairwise_cons.mp normal.divided).1 span later (Nat.le_antisymm behind low) same.symm

/-- The first span of a list reaches as far as that of a list which covers the same. -/
theorem stop_le_stop (normal : NormalSpans (first :: rest))
    (starts : first.start = second.start) (styles : first.style = second.style)
    (covers : ∀ pos style, CoveredBy (second :: others) pos style →
      CoveredBy (first :: rest) pos style) : second.stop ≤ first.stop := by
  apply Nat.le_of_not_lt
  intro short
  have filled := normal.first_filled
  apply normal.not_covered_stop
  rw [styles]
  exact covers _ _ ⟨second, List.mem_cons_self, rfl, by omega, short⟩

/-- Lists in normal form that cover the same have the same first span. -/
theorem first_eq (normal : NormalSpans (first :: rest)) (other : NormalSpans (second :: others))
    (same : ∀ pos style, CoveredBy (first :: rest) pos style ↔
      CoveredBy (second :: others) pos style) : first = second := by
  have startLe := other.start_le_of_covered ((same _ _).mp normal.first_covers)
  have geStart := normal.start_le_of_covered ((same _ _).mpr other.first_covers)
  have starts : first.start = second.start := Nat.le_antisymm geStart startLe
  have styles : first.style = second.style := by
    have filled := other.first_filled
    rcases other.covered_cons_iff.mp ((same _ _).mp normal.first_covers) with covers | ⟨behind, -⟩
    · exact covers.1.symm
    · omega
  have stops : first.stop = second.stop := Nat.le_antisymm
    (other.stop_le_stop starts.symm styles.symm fun pos style => (same pos style).mp)
    (normal.stop_le_stop starts styles fun pos style => (same pos style).mpr)
  rcases first with ⟨start, stop, style⟩
  rcases second with ⟨start', stop', style'⟩
  simp only at starts stops styles
  rw [starts, stops, styles]

/-- Spans in normal form are told by what they cover. -/
theorem eq_of_covered_iff {spans others : List Span} (normal : NormalSpans spans)
    (other : NormalSpans others)
    (same : ∀ pos style, CoveredBy spans pos style ↔ CoveredBy others pos style) :
    spans = others := by
  induction spans generalizing others with
  | nil =>
    cases others with
    | nil => rfl
    | cons second others =>
      obtain ⟨span, member, -⟩ := (same _ _).mpr other.first_covers
      cases member
  | cons first rest ih =>
    cases others with
    | nil =>
      obtain ⟨span, member, -⟩ := (same _ _).mp normal.first_covers
      cases member
    | cons second others =>
      obtain rfl := normal.first_eq other same
      congr 1
      apply ih normal.tail other.tail
      intro pos style
      -- what lies behind the first span is covered by the others alone
      have behind := same pos style
      rw [normal.covered_cons_iff, other.covered_cons_iff] at behind
      constructor
      · intro covered
        have late := normal.le_of_covered covered
        rcases behind.mp (Or.inr ⟨late, covered⟩) with covers | ⟨-, covered⟩
        · exact absurd covers.2.2 (Nat.not_lt.mpr late)
        · exact covered
      · intro covered
        have late := other.le_of_covered covered
        rcases behind.mpr (Or.inr ⟨late, covered⟩) with covers | ⟨-, covered⟩
        · exact absurd covers.2.2 (Nat.not_lt.mpr late)
        · exact covered

end NormalSpans

/-! ## The spans of a canvas -/

namespace Canvas

theorem divided_prepend {pos : Nat} (style : Style) {spans : List Span}
    (filled : ∀ span ∈ spans, pos + 1 ≤ span.start ∧ span.start < span.stop)
    (ordered : spans.Pairwise fun a b => a.stop ≤ b.start)
    (divided : spans.Pairwise fun a b => a.stop = b.start → a.style ≠ b.style) :
    (Span.prepend pos style spans).Pairwise fun a b => a.stop = b.start → a.style ≠ b.style := by
  cases spans with
  | nil => exact List.pairwise_singleton _ _
  | cons first rest =>
    rw [Span.prepend]
    split
    · next joins =>
      rw [List.pairwise_cons] at divided ⊢
      rwa [← joins.2]
    · next apart =>
      refine List.pairwise_cons.mpr ⟨fun span member touches same => ?_, divided⟩
      rcases List.mem_cons.mp member with rfl | later
      · exact apart ⟨touches.symm, same.symm⟩
      · -- a span after the first one starts too late to touch the character
        have behind := (List.pairwise_cons.mp ordered).1 span later
        have bounds := filled first List.mem_cons_self
        simp only at touches
        omega

theorem spans_divided (offset : Nat) (canvas : Canvas) :
    (canvas.spans offset).Pairwise fun a b => a.stop = b.start → a.style ≠ b.style := by
  induction canvas generalizing offset with
  | nil => exact List.Pairwise.nil
  | cons cell rest ih =>
    cases cell with
    | none => exact ih (offset + 1)
    | some style =>
      rw [spans]
      refine divided_prepend style (fun span member => ?_) (spans_pairwise _ _) (ih _)
      have bounds := bounds_of_mem_spans member
      exact ⟨bounds.1, bounds.2.1⟩

theorem normalSpans_spans (offset : Nat) (canvas : Canvas) : NormalSpans (canvas.spans offset) where
  filled _ member := (bounds_of_mem_spans member).2.1
  ordered := spans_pairwise offset canvas
  divided := spans_divided offset canvas

/-! ## Painting spans -/

/-- Paints spans, one after the other, on a canvas whose first character is at `offset`. -/
def paintSpans (offset : Nat) (spans : List Span) (canvas : Canvas) : Canvas :=
  spans.foldl (fun canvas span =>
    canvas.fill (span.start - offset) (span.stop - offset) span.style true) canvas

@[simp] theorem length_paintSpans (offset : Nat) (spans : List Span) (canvas : Canvas) :
    (paintSpans offset spans canvas).length = canvas.length := by
  induction spans generalizing canvas with
  | nil => rfl
  | cons first rest ih =>
    rw [paintSpans, List.foldl_cons, ← paintSpans, ih, length_fill]

section Painting

variable {offset : Nat} {spans : List Span}

/-- A character that no span covers keeps its style. -/
theorem getElem?_paintSpans_of_not_covered (inside : ∀ span ∈ spans, offset ≤ span.start)
    {i : Nat} (free : ∀ style, ¬ CoveredBy spans (offset + i) style) (canvas : Canvas) :
    (paintSpans offset spans canvas)[i]? = canvas[i]? := by
  induction spans generalizing canvas with
  | nil => rfl
  | cons first rest ih =>
    have low := inside first List.mem_cons_self
    have outside : i < first.start - offset ∨ first.stop - offset ≤ i := by
      have apart : ¬ (first.start ≤ offset + i ∧ offset + i < first.stop) := fun within =>
        free first.style ⟨first, List.mem_cons_self, rfl, within⟩
      omega
    rw [paintSpans, List.foldl_cons, ← paintSpans, ih, getElem?_fill_of_outside _ _ _ outside]
    · exact fun span later => inside span (List.mem_cons_of_mem _ later)
    · exact fun style ⟨span, later, covers⟩ =>
        free style ⟨span, List.mem_cons_of_mem _ later, covers⟩

/-- A character that a span covers gets its style, as no later span covers it again. -/
theorem getElem?_paintSpans_of_covered (inside : ∀ span ∈ spans, offset ≤ span.start)
    (ordered : spans.Pairwise fun a b => a.stop ≤ b.start) {i : Nat} {style : Style}
    (covered : CoveredBy spans (offset + i) style) (canvas : Canvas) :
    (paintSpans offset spans canvas)[i]? = canvas[i]?.map fun _ => some style := by
  induction spans generalizing canvas with
  | nil =>
    obtain ⟨span, member, -⟩ := covered
    cases member
  | cons first rest ih =>
    have low := inside first List.mem_cons_self
    have insideRest : ∀ span ∈ rest, offset ≤ span.start := fun span later =>
      inside span (List.mem_cons_of_mem _ later)
    rw [paintSpans, List.foldl_cons, ← paintSpans]
    obtain ⟨span, member, covers⟩ := covered
    rcases List.mem_cons.mp member with rfl | later
    · have free : ∀ other, ¬ CoveredBy rest (offset + i) other := by
        rintro other ⟨next, later, -, start, -⟩
        have behind := (List.pairwise_cons.mp ordered).1 next later
        have stop := covers.2.2
        omega
      obtain ⟨rfl, start, stop⟩ := covers
      have within : span.start - offset ≤ i ∧ i < span.stop - offset := by omega
      rw [getElem?_paintSpans_of_not_covered insideRest free, getElem?_fill]
      simp [within]
    · rw [ih insideRest ordered.of_cons ⟨span, later, covers⟩, getElem?_fill, Option.map_map]
      rfl

/-- Spans painted on an empty canvas style the characters that they cover, and no others. -/
theorem getElem?_paintSpans_empty (inside : ∀ span ∈ spans, offset ≤ span.start)
    (ordered : spans.Pairwise fun a b => a.stop ≤ b.start) {size : Nat}
    (within : ∀ span ∈ spans, span.stop ≤ offset + size) (i : Nat) (style : Style) :
    (paintSpans offset spans (empty size))[i]? = some (some style) ↔
      CoveredBy spans (offset + i) style := by
  constructor
  · intro styled
    by_cases covered : ∃ other, CoveredBy spans (offset + i) other
    · obtain ⟨other, covered⟩ := covered
      rw [getElem?_paintSpans_of_covered inside ordered covered] at styled
      obtain ⟨old, -, same⟩ := Option.map_eq_some_iff.mp styled
      rwa [← Option.some.inj same]
    · rw [getElem?_paintSpans_of_not_covered inside (not_exists.mp covered)] at styled
      exact absurd (List.eq_of_mem_replicate (List.mem_of_getElem? styled)) (Option.some_ne_none _)
  · rintro ⟨span, member, covers⟩
    have stop := within span member
    have reached := covers.2.2
    have cell : i < size := by omega
    rw [getElem?_paintSpans_of_covered inside ordered ⟨span, member, covers⟩, empty,
      List.getElem?_replicate_of_lt cell]
    rfl

end Painting

/-! ## The code of a canvas -/

/-- Spans that tell a canvas whose first character is at `offset`: none is empty, all lie on the
canvas, they stand in order without overlap, two that touch differ in style, and painted on an
empty canvas of the same size they give the canvas back. -/
structure IsCode (offset : Nat) (canvas : Canvas) (spans : List Span) : Prop where
  filled : ∀ span ∈ spans, span.start < span.stop
  inside : ∀ span ∈ spans, offset ≤ span.start ∧ span.stop ≤ offset + canvas.length
  increasing : spans.Pairwise fun a b => a.start < b.start
  disjoint : spans.Pairwise fun a b => a.stop ≤ b.start
  divided : spans.Pairwise fun a b => a.stop = b.start → a.style ≠ b.style
  painted : paintSpans offset spans (empty canvas.length) = canvas

theorem IsCode.covered_iff {offset : Nat} {canvas : Canvas} {spans : List Span}
    (code : canvas.IsCode offset spans) (i : Nat) (style : Style) :
    CoveredBy spans (offset + i) style ↔ canvas[i]? = some (some style) := by
  have cells := getElem?_paintSpans_empty (fun span member => (code.inside span member).1)
    code.disjoint (fun span member => (code.inside span member).2) i style
  rw [← cells, code.painted]

/-- The spans of a canvas are a code of it. -/
theorem isCode_spans (offset : Nat) (canvas : Canvas) :
    canvas.IsCode offset (canvas.spans offset) where
  filled := (normalSpans_spans offset canvas).filled
  inside _ member :=
    have bounds := bounds_of_mem_spans member
    ⟨bounds.1, bounds.2.2⟩
  increasing := by
    have ordered := spans_pairwise offset canvas
    refine ordered.imp_of_mem fun earlier _ behind => ?_
    have filled := (bounds_of_mem_spans earlier).2.1
    omega
  disjoint := spans_pairwise offset canvas
  divided := spans_divided offset canvas
  painted := by
    apply eq_of_styled_iff
    · rw [length_paintSpans, length_empty]
    · intro i style
      rw [getElem?_eq_iff_exists_covers offset canvas]
      exact getElem?_paintSpans_empty (fun _ member => (bounds_of_mem_spans member).1)
        (spans_pairwise offset canvas) (fun _ member => (bounds_of_mem_spans member).2.2) i style

/-- A canvas has one code, its spans: they have all the properties of a code, and no other list of
spans has. -/
theorem isCode_iff_eq_spans (offset : Nat) (canvas : Canvas) (spans : List Span) :
    canvas.IsCode offset spans ↔ spans = canvas.spans offset := by
  constructor
  · intro code
    have normal : NormalSpans spans := ⟨code.filled, code.disjoint, code.divided⟩
    have own := isCode_spans offset canvas
    refine normal.eq_of_covered_iff (normalSpans_spans offset canvas) fun pos style => ?_
    by_cases before : pos < offset
    · -- neither list reaches before the canvas
      have free : ∀ {others : List Span}, canvas.IsCode offset others →
          ¬ CoveredBy others pos style := by
        rintro others code ⟨span, member, -, start, -⟩
        have low := (code.inside span member).1
        omega
      exact iff_of_false (free code) (free own)
    · obtain ⟨i, rfl⟩ := Nat.exists_eq_add_of_le (Nat.le_of_not_lt before)
      rw [code.covered_iff, own.covered_iff]
  · rintro rfl
    exact isCode_spans offset canvas

/-! ## The loop over a canvas -/

/-- The span of a run from `start` up to `stop`, if it has a style. -/
def runSpans (start stop : Nat) : Option Style → List Span
  | some style => [⟨start, stop, style⟩]
  | none => []

/-- What the loop has at hand: where the run that it is in begins, and the spans of the runs before
that one. -/
structure Scan where
  runStart : Nat
  spans : List Span

/-- A step of the loop. The character at `i` belongs to the run if it has the style that the run
begins with; else, and one step behind the last character, the run ends. -/
def scanStep (offset : Nat) (canvas : Canvas) (scan : Scan) (i : Nat) : Scan :=
  if i < canvas.length ∧ canvas[i]? = canvas[scan.runStart]? then scan
  else ⟨i, scan.spans ++
    runSpans (offset + scan.runStart) (offset + i) canvas[scan.runStart]?.join⟩

/-- The spans that are found by going over the canvas once. -/
def coalesce (offset : Nat) (canvas : Canvas) : List Span :=
  ((List.range' 1 canvas.length).foldl (canvas.scanStep offset) ⟨0, []⟩).spans

/-- A character of another style does not join the spans behind it. -/
theorem prepend_spans_of_head? {style : Style} {rest : Canvas}
    (ends : rest.head? ≠ some (some style)) (pos : Nat) :
    Span.prepend pos style (rest.spans (pos + 1)) =
      ⟨pos, pos + 1, style⟩ :: rest.spans (pos + 1) := by
  cases rest with
  | nil => rfl
  | cons cell rest =>
    cases found : spans (pos + 1) (cell :: rest) with
    | nil => rfl
    | cons first others =>
      refine if_neg fun joins => ends ?_
      -- a span that begins at the character behind has the style of that character
      have filled := (bounds_of_mem_spans (found ▸ List.mem_cons_self : first ∈ _)).2.1
      have here := (getElem?_eq_iff_exists_covers (pos + 1) (cell :: rest) 0 style).mpr
        ⟨first, found ▸ List.mem_cons_self, joins.2, Nat.le_of_eq joins.1, joins.1 ▸ filled⟩
      exact here

/-- The spans of a canvas that begins with a run are that of the run and those behind it. -/
theorem spans_replicate_append {cell : Option Style} {rest : Canvas} (ends : rest.head? ≠ some cell)
    (n offset : Nat) :
    spans offset (List.replicate (n + 1) cell ++ rest) =
      runSpans offset (offset + (n + 1)) cell ++ rest.spans (offset + (n + 1)) := by
  induction n generalizing offset with
  | zero =>
    cases cell with
    | none => rfl
    | some style => exact prepend_spans_of_head? ends offset
  | succ n ih =>
    rw [List.replicate_succ, List.cons_append]
    have later := ih (offset + 1)
    rw [Nat.add_right_comm, Nat.add_assoc] at later
    cases cell with
    | none =>
      rw [spans, later]
      rfl
    | some style =>
      rw [spans, later]
      exact if_pos ⟨rfl, rfl⟩

/-- The loop before it looks at `i`: from where the run begins up to there all characters are alike,
and the spans behind that place are what is left to find. -/
structure ScannedTo (offset : Nat) (canvas : Canvas) (i : Nat) (scan : Scan) : Prop where
  begun : scan.runStart < i
  alike : ∃ cell, canvas.drop scan.runStart =
    List.replicate (i - scan.runStart) cell ++ canvas.drop i
  found : canvas.spans offset =
    scan.spans ++ Canvas.spans (offset + scan.runStart) (canvas.drop scan.runStart)

namespace ScannedTo

variable {offset i : Nat} {canvas : Canvas} {scan : Scan} (scanned : ScannedTo offset canvas i scan)

include scanned

/-- All characters of the run have the style that it begins with. -/
theorem exists_run : ∃ cell, canvas[scan.runStart]? = some cell ∧
    canvas.drop scan.runStart = List.replicate (i - scan.runStart) cell ++ canvas.drop i := by
  obtain ⟨cell, run⟩ := scanned.alike
  obtain ⟨n, size⟩ : ∃ n, i - scan.runStart = n + 1 :=
    ⟨i - scan.runStart - 1, by have := scanned.begun; omega⟩
  refine ⟨cell, ?_, run⟩
  rw [← List.head?_drop, run, size]
  rfl

/-- A run ends where another style, or nothing, comes next. -/
theorem spans_of_ends (ends : ¬ (i < canvas.length ∧ canvas[i]? = canvas[scan.runStart]?)) :
    canvas.spans offset = (canvas.scanStep offset scan i).spans ++
      Canvas.spans (offset + i) (canvas.drop i) := by
  obtain ⟨cell, first, run⟩ := scanned.exists_run
  have begun := scanned.begun
  obtain ⟨n, size⟩ : ∃ n, i - scan.runStart = n + 1 := ⟨i - scan.runStart - 1, by omega⟩
  have stop : offset + scan.runStart + (n + 1) = offset + i := by omega
  have other : (canvas.drop i).head? ≠ some cell := by
    rw [List.head?_drop]
    intro same
    exact ends ⟨(List.getElem?_eq_some_iff.mp same).1, same.trans first.symm⟩
  have split := spans_replicate_append other n (offset + scan.runStart)
  rw [← size, ← run, size, stop] at split
  rw [scanned.found, split, scanStep, if_neg ends, first, List.append_assoc]
  rfl

/-- A step that is not the last one keeps what the loop has at hand. -/
theorem step (inside : i < canvas.length) :
    ScannedTo offset canvas (i + 1) (canvas.scanStep offset scan i) := by
  by_cases goes : i < canvas.length ∧ canvas[i]? = canvas[scan.runStart]?
  · obtain ⟨cell, first, run⟩ := scanned.exists_run
    have begun := scanned.begun
    rw [scanStep, if_pos goes]
    refine ⟨Nat.lt_succ_of_lt begun, ⟨cell, ?_⟩, scanned.found⟩
    have next : canvas.drop i = cell :: canvas.drop (i + 1) := by
      rw [List.drop_eq_getElem_cons inside]
      congr 1
      exact Option.some.inj ((List.getElem?_eq_getElem inside).symm.trans (goes.2.trans first))
    rw [run, next, Nat.succ_sub (Nat.le_of_lt begun), List.replicate_succ', List.append_assoc]
    rfl
  · have split := scanned.spans_of_ends goes
    rw [scanStep, if_neg goes] at split ⊢
    refine ⟨Nat.lt_succ_self i, ⟨canvas[i], ?_⟩, split⟩
    rw [List.drop_eq_getElem_cons inside, Nat.add_sub_cancel_left]
    rfl

end ScannedTo

theorem scannedTo_foldl {offset n : Nat} {canvas : Canvas} (inside : n < canvas.length) :
    ScannedTo offset canvas (n + 1)
      ((List.range' 1 n).foldl (canvas.scanStep offset) ⟨0, []⟩) := by
  induction n with
  | zero =>
    exact ⟨Nat.one_pos, ⟨canvas[0], List.drop_eq_getElem_cons inside⟩, rfl⟩
  | succ n ih =>
    rw [List.range'_1_concat, List.foldl_concat, Nat.add_comm 1 n]
    exact (ih (Nat.lt_of_succ_lt inside)).step inside

/-- Going over the canvas once finds its spans. -/
theorem coalesce_eq_spans (offset : Nat) (canvas : Canvas) :
    canvas.coalesce offset = canvas.spans offset := by
  cases size : canvas.length with
  | zero =>
    rw [List.eq_nil_of_length_eq_zero size]
    rfl
  | succ n =>
    have scanned := @scannedTo_foldl offset n canvas (by omega)
    have split := scanned.spans_of_ends fun goes => by omega
    have nothing : canvas.drop (n + 1) = [] := List.drop_eq_nil_of_le (Nat.le_of_eq size)
    rw [nothing] at split
    rw [coalesce, size, List.range'_1_concat, List.foldl_concat, Nat.add_comm 1 n, split]
    exact (List.append_nil _).symm

end Canvas

end TurtleEdit
