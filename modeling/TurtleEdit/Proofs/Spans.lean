import TurtleEdit.Highlight.Canvas

/-!
The spans of a part of a canvas are the spans of the canvas, cut down to that part.

Spans come in order and are not empty. So the spans that lie right of a part are the last ones,
and the two that reach across its ends lose what lies outside and keep their style. An unpainted
character divides the spans of a canvas into those before it and those after it. The spans tell
everything of a canvas but its size.
-/

namespace TurtleEdit

/-! ## Order -/

theorem Span.mem_prepend {pos : Nat} {style : Style} {spans : List Span} {span : Span}
    (member : span ∈ Span.prepend pos style spans) :
    span ∈ spans ∨ span.start = pos ∧
      (span.stop = pos + 1 ∨ ∃ first ∈ spans, first.start = pos + 1 ∧ span.stop = first.stop) := by
  cases spans with
  | nil =>
    obtain rfl := List.mem_singleton.mp member
    exact Or.inr ⟨rfl, Or.inl rfl⟩
  | cons first rest =>
    rw [Span.prepend] at member
    split at member
    · next joins =>
      rcases List.mem_cons.mp member with rfl | later
      · exact Or.inr ⟨rfl, Or.inr ⟨first, List.mem_cons_self, joins.1, rfl⟩⟩
      · exact Or.inl (List.mem_cons_of_mem _ later)
    · rcases List.mem_cons.mp member with rfl | later
      · exact Or.inr ⟨rfl, Or.inl rfl⟩
      · exact Or.inl later

/-- A span of a canvas is not empty and lies on the canvas. -/
theorem Canvas.bounds_of_mem_spans {offset : Nat} {canvas : Canvas} {span : Span}
    (member : span ∈ canvas.spans offset) :
    offset ≤ span.start ∧ span.start < span.stop ∧ span.stop ≤ offset + canvas.length := by
  induction canvas generalizing offset span with
  | nil => cases member
  | cons cell rest ih =>
    simp only [List.length_cons]
    cases cell with
    | none =>
      have bounds := ih member
      omega
    | some style =>
      rcases Span.mem_prepend member with later | ⟨starts, single | ⟨first, inRest, -, stops⟩⟩
      · have bounds := ih later
        omega
      · omega
      · have bounds := ih inRest
        omega

/-- Spans stand in order and do not overlap. -/
theorem Canvas.spans_pairwise (offset : Nat) (canvas : Canvas) :
    (canvas.spans offset).Pairwise fun a b => a.stop ≤ b.start := by
  induction canvas generalizing offset with
  | nil => exact List.Pairwise.nil
  | cons cell rest ih =>
    cases cell with
    | none => exact ih (offset + 1)
    | some style =>
      rw [Canvas.spans]
      have ordered := ih (offset + 1)
      cases tail : Canvas.spans (offset + 1) rest with
      | nil => exact List.pairwise_singleton _ _
      | cons first others =>
        rw [tail] at ordered
        rw [Span.prepend]
        split
        · exact List.pairwise_cons.mpr (List.pairwise_cons.mp ordered)
        · refine List.pairwise_cons.mpr ⟨fun span later => ?_, ordered⟩
          rw [← tail] at later
          exact (Canvas.bounds_of_mem_spans later).1

/-! ## Dividing -/

/-- A span moved to the right. -/
def Span.shift (offset : Nat) (span : Span) : Span :=
  ⟨offset + span.start, offset + span.stop, span.style⟩

theorem Span.prepend_shift (offset pos : Nat) (style : Style) (spans : List Span) :
    Span.prepend (offset + pos) style (spans.map (Span.shift offset)) =
      (Span.prepend pos style spans).map (Span.shift offset) := by
  cases spans with
  | nil => rfl
  | cons first rest =>
    have touches : offset + first.start = offset + pos + 1 ↔ first.start = pos + 1 := by omega
    simp only [List.map_cons, Span.prepend, Span.shift, touches]
    split <;> rfl

/-- A canvas that starts further right has its spans further right. -/
theorem Canvas.spans_add (offset pos : Nat) (canvas : Canvas) :
    canvas.spans (offset + pos) = (canvas.spans pos).map (Span.shift offset) := by
  induction canvas generalizing pos with
  | nil => rfl
  | cons cell rest ih =>
    cases cell with
    | none => exact ih (pos + 1)
    | some style => rw [Canvas.spans, Canvas.spans, Nat.add_assoc, ih, Span.prepend_shift]

/-- A character joins the first of the spans after it, or comes before spans that it does not
touch. -/
theorem Span.prepend_append {pos : Nat} (style : Style) (spans : List Span) {others : List Span}
    (apart : ∀ span ∈ others, pos + 1 < span.start) :
    Span.prepend pos style (spans ++ others) = Span.prepend pos style spans ++ others := by
  cases spans with
  | cons first rest =>
    rw [List.cons_append, Span.prepend, Span.prepend]
    split <;> rfl
  | nil =>
    cases others with
    | nil => rfl
    | cons first rest =>
      have gap := apart first List.mem_cons_self
      rw [List.nil_append, Span.prepend, if_neg (by omega)]
      rfl

/-- An unpainted character divides the spans. -/
theorem Canvas.spans_append_none (offset : Nat) (left right : Canvas) :
    Canvas.spans offset (left ++ none :: right) =
      left.spans offset ++ right.spans (offset + left.length + 1) := by
  induction left generalizing offset with
  | nil => rfl
  | cons cell rest ih =>
    have moved : offset + (cell :: rest).length + 1 = offset + 1 + rest.length + 1 := by
      rw [List.length_cons]
      omega
    rw [moved, List.cons_append]
    cases cell with
    | none => exact ih (offset + 1)
    | some style =>
      rw [Canvas.spans, ih, Canvas.spans]
      refine Span.prepend_append style _ fun span member => ?_
      have bounds := Canvas.bounds_of_mem_spans member
      omega

/-! ## Clipping -/

/-- The part of a span between two offsets, where there is one. -/
def Span.clip (low high : Nat) (span : Span) : Option Span :=
  if max span.start low < min span.stop high then
    some ⟨max span.start low, min span.stop high, span.style⟩
  else none

/-- Spans cut down to the characters from `low` up to `high`. -/
def clipSpans (low high : Nat) (spans : List Span) : List Span :=
  spans.filterMap (Span.clip low high)

/-- Nothing is left of spans that start at the upper bound or beyond. -/
theorem clipSpans_eq_nil {low high : Nat} {spans : List Span}
    (late : ∀ span ∈ spans, high ≤ span.start) : clipSpans low high spans = [] := by
  refine List.filterMap_eq_nil_iff.mpr fun span member => ?_
  have starts := late span member
  rw [Span.clip, if_neg (by omega)]

/-- A character left of the lower bound is cut off again. -/
theorem clipSpans_prepend_of_lt {low high pos : Nat} (left : pos < low) (style : Style)
    (spans : List Span) :
    clipSpans low high (Span.prepend pos style spans) = clipSpans low high spans := by
  have single : Span.clip low high ⟨pos, pos + 1, style⟩ = none := if_neg (by dsimp only; omega)
  cases spans with
  | nil =>
    rw [Span.prepend, clipSpans, List.filterMap_cons_none single]
    rfl
  | cons first rest =>
    rw [Span.prepend]
    split
    · next joins =>
      have same : Span.clip low high ⟨pos, first.stop, style⟩ = Span.clip low high first := by
        have starts : max pos low = max first.start low := by omega
        simp only [Span.clip, starts, joins.2]
      simp only [clipSpans, List.filterMap_cons, same]
    · rw [clipSpans, List.filterMap_cons_none single]
      rfl

/-- A character between the bounds stays in front of what is left of the spans after it. -/
theorem clipSpans_prepend_of_le {low high pos : Nat} (lower : low ≤ pos) (upper : pos < high)
    (style : Style) {spans : List Span}
    (ordered : spans.Pairwise fun a b => a.stop ≤ b.start)
    (after : ∀ span ∈ spans, pos + 1 ≤ span.start ∧ span.start < span.stop) :
    clipSpans low high (Span.prepend pos style spans) =
      Span.prepend pos style (clipSpans low high spans) := by
  have single : Span.clip low high ⟨pos, pos + 1, style⟩ = some ⟨pos, pos + 1, style⟩ := by
    simp only [Span.clip, Nat.max_eq_left lower, Nat.min_eq_left upper]
    exact if_pos (Nat.lt_succ_self pos)
  cases spans with
  | nil =>
    rw [Span.prepend, clipSpans, List.filterMap_cons_some single]
    rfl
  | cons first rest =>
    obtain ⟨startsAfter, notEmpty⟩ := after first List.mem_cons_self
    have lowerFirst : max first.start low = first.start := by omega
    by_cases reached : first.start < high
    · -- what is left of the first span starts where it did, so it is joined as before
      have kept : Span.clip low high first =
          some ⟨first.start, min first.stop high, first.style⟩ := by
        rw [Span.clip, lowerFirst, if_pos (by omega)]
      have whole : clipSpans low high (first :: rest) =
          ⟨first.start, min first.stop high, first.style⟩ :: clipSpans low high rest :=
        List.filterMap_cons_some kept
      rw [whole, Span.prepend, Span.prepend]
      split
      · next joins =>
        have joined : Span.clip low high ⟨pos, first.stop, style⟩ =
            some ⟨pos, min first.stop high, style⟩ := by
          simp only [Span.clip, Nat.max_eq_left lower]
          exact if_pos (by omega)
        rw [clipSpans, List.filterMap_cons_some joined]
        rfl
      · rw [clipSpans, List.filterMap_cons_some single]
        exact congrArg _ whole
    · -- nothing is left of any span, and one joined to the first loses all but this character
      have restLate : ∀ span ∈ rest, high ≤ span.start := by
        intro span later
        have apart := (List.pairwise_cons.mp ordered).1 span later
        omega
      have allLate : clipSpans low high (first :: rest) = [] :=
        clipSpans_eq_nil fun span member => by
          rcases List.mem_cons.mp member with rfl | later
          · omega
          · exact restLate span later
      rw [allLate, Span.prepend, Span.prepend]
      split
      · next joins =>
        have joined : Span.clip low high ⟨pos, first.stop, style⟩ =
            some ⟨pos, pos + 1, style⟩ := by
          have stops : min first.stop high = pos + 1 := by omega
          simp only [Span.clip, Nat.max_eq_left lower, stops]
          exact if_pos (Nat.lt_succ_self pos)
        rw [clipSpans, List.filterMap_cons_some joined]
        exact congrArg _ (clipSpans_eq_nil restLate)
      · rw [clipSpans, List.filterMap_cons_some single]
        exact congrArg _ allLate

/-- Clipping the spans of a canvas gives the spans of the part of the canvas. -/
theorem Canvas.clipSpans_spans (low high offset : Nat) (canvas : Canvas) :
    clipSpans low high (canvas.spans offset) =
      Canvas.spans (max offset low) ((canvas.take (high - offset)).drop (low - offset)) := by
  induction canvas generalizing offset with
  | nil => simp [Canvas.spans, clipSpans]
  | cons cell rest ih =>
    have bounds : ∀ span ∈ Canvas.spans (offset + 1) rest,
        offset + 1 ≤ span.start ∧ span.start < span.stop := fun span member =>
      have inRest := Canvas.bounds_of_mem_spans member
      ⟨inRest.1, inRest.2.1⟩
    have ordered := Canvas.spans_pairwise (offset + 1) rest
    by_cases past : high ≤ offset
    · rw [Nat.sub_eq_zero_of_le past, List.take_zero, List.drop_nil, Canvas.spans]
      exact clipSpans_eq_nil fun span member =>
        Nat.le_trans past (Canvas.bounds_of_mem_spans member).1
    obtain ⟨size, sizeEq⟩ : ∃ size, high - offset = size + 1 := ⟨high - offset - 1, by omega⟩
    have restSize : high - (offset + 1) = size := by omega
    rw [sizeEq, List.take_succ_cons]
    by_cases left : offset < low
    · obtain ⟨skip, skipEq⟩ : ∃ skip, low - offset = skip + 1 := ⟨low - offset - 1, by omega⟩
      have restSkip : low - (offset + 1) = skip := by omega
      have inRest := ih (offset + 1)
      rw [restSize, restSkip, Nat.max_eq_right left] at inRest
      rw [skipEq, List.drop_succ_cons, Nat.max_eq_right (Nat.le_of_lt left)]
      cases cell with
      | none => exact inRest
      | some style => exact (clipSpans_prepend_of_lt left style _).trans inRest
    · have inRest := ih (offset + 1)
      rw [restSize, Nat.sub_eq_zero_of_le (by omega), List.drop_zero,
        Nat.max_eq_left (by omega)] at inRest
      rw [Nat.sub_eq_zero_of_le (by omega), List.drop_zero, Nat.max_eq_left (by omega)]
      cases cell with
      | none => exact inRest
      | some style =>
        rw [Canvas.spans, Canvas.spans, ← inRest]
        exact clipSpans_prepend_of_le (by omega) (by omega) style ordered bounds

/-! ## What spans tell of a canvas -/

/-- A span gives a character its style. -/
def Span.Covers (span : Span) (pos : Nat) (style : Style) : Prop :=
  span.style = style ∧ span.start ≤ pos ∧ pos < span.stop

theorem Span.exists_covers_prepend {pos i : Nat} {style other : Style} {spans : List Span}
    (filled : ∀ span ∈ spans, span.start < span.stop) :
    (∃ span ∈ Span.prepend pos style spans, span.Covers i other) ↔
      (i = pos ∧ style = other) ∨ ∃ span ∈ spans, span.Covers i other := by
  have single : Span.Covers ⟨pos, pos + 1, style⟩ i other ↔ i = pos ∧ style = other := by
    have place : pos ≤ i ∧ i < pos + 1 ↔ i = pos := by omega
    rw [Span.Covers, place, and_comm]
  cases spans with
  | nil => simp only [prepend, List.mem_cons, exists_eq_or_imp, single]
  | cons first rest =>
    have notEmpty := filled first List.mem_cons_self
    rw [prepend]
    split
    · next joins =>
      have joined : Span.Covers ⟨pos, first.stop, style⟩ i other ↔
          (i = pos ∧ style = other) ∨ first.Covers i other := by
        have place : pos ≤ i ∧ i < first.stop ↔ i = pos ∨ first.start ≤ i ∧ i < first.stop := by
          omega
        rw [Span.Covers, Span.Covers, joins.2, place, and_or_left, and_comm]
      simp only [List.mem_cons, exists_eq_or_imp, joined, or_assoc]
    · simp only [List.mem_cons, exists_eq_or_imp, single]

/-- A character has a style if a span gives it. -/
theorem Canvas.getElem?_eq_iff_exists_covers (offset : Nat) (canvas : Canvas) (i : Nat)
    (style : Style) :
    canvas[i]? = some (some style) ↔
      ∃ span ∈ canvas.spans offset, span.Covers (offset + i) style := by
  induction canvas generalizing offset i with
  | nil => simp [Canvas.spans]
  | cons cell rest ih =>
    have late : ∀ span ∈ Canvas.spans (offset + 1) rest, ¬ span.Covers offset style := by
      intro span member covers
      have bounds := Canvas.bounds_of_mem_spans member
      have low := covers.2.1
      omega
    have filled : ∀ span ∈ Canvas.spans (offset + 1) rest, span.start < span.stop :=
      fun span member => (Canvas.bounds_of_mem_spans member).2.1
    have first : ¬ ∃ span ∈ Canvas.spans (offset + 1) rest, span.Covers offset style :=
      fun ⟨span, member, covers⟩ => late span member covers
    cases cell with
    | none =>
      rw [Canvas.spans]
      cases i with
      | zero => simpa using late
      | succ i =>
        rw [List.getElem?_cons_succ, ih (offset + 1), Nat.add_assoc, Nat.add_comm 1]
    | some own =>
      rw [Canvas.spans, Span.exists_covers_prepend filled]
      cases i with
      | zero => simp [first]
      | succ i =>
        rw [List.getElem?_cons_succ, ih (offset + 1), Nat.add_assoc, Nat.add_comm 1, or_iff_right]
        omega

/-- Canvases of one size with the same styled characters are the same. -/
theorem Canvas.eq_of_styled_iff {first second : Canvas} (size : first.length = second.length)
    (styled : ∀ (i : Nat) (style : Style), first[i]? = some (some style) ↔
      second[i]? = some (some style)) :
    first = second := by
  refine List.ext_getElem size fun i inFirst inSecond => Option.ext fun style => ?_
  have cell := styled i style
  rwa [List.getElem?_eq_getElem inFirst, List.getElem?_eq_getElem inSecond, Option.some.injEq,
    Option.some.injEq] at cell

/-- Canvases of one size with the same spans are the same. -/
theorem Canvas.spans_inj {offset : Nat} {first second : Canvas}
    (size : first.length = second.length) :
    first.spans offset = second.spans offset ↔ first = second := by
  refine ⟨fun same => eq_of_styled_iff size fun i style => ?_, fun same => by rw [same]⟩
  rw [getElem?_eq_iff_exists_covers offset, getElem?_eq_iff_exists_covers offset, same]

end TurtleEdit
