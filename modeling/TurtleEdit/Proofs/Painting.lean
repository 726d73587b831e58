import TurtleEdit.Highlight.Classify
import TurtleEdit.Proofs.Scanning

/-!
How painting acts on the parts of a canvas.

A match paints inside the part of the canvas that it lies in and leaves the other parts alone, so a
canvas may be cut wherever no match reaches across and each part painted for itself. A rule that
does not override never changes a painted character.
-/

namespace TurtleEdit

namespace Canvas

theorem empty_add (m n : Nat) : empty (m + n) = empty m ++ empty n := List.replicate_add m n none

@[simp] theorem length_empty (size : Nat) : (empty size).length = size := List.length_replicate

/-! ## Filling -/

@[simp] theorem length_fill (canvas : Canvas) (start stop : Nat) (style : Style)
    (overrides : Bool) : (canvas.fill start stop style overrides).length = canvas.length :=
  List.length_mapIdx

theorem getElem?_fill (canvas : Canvas) (start stop : Nat) (style : Style) (overrides : Bool)
    (i : Nat) :
    (canvas.fill start stop style overrides)[i]? = canvas[i]?.map fun old =>
      if start ≤ i ∧ i < stop ∧ (overrides ∨ old = none) then some style else old :=
  List.getElem?_mapIdx

/-- Filling reaches no character outside its offsets. -/
theorem getElem?_fill_of_outside (canvas : Canvas) {start stop : Nat} (style : Style)
    (overrides : Bool) {i : Nat} (outside : i < start ∨ stop ≤ i) :
    (canvas.fill start stop style overrides)[i]? = canvas[i]? := by
  have apart : ¬ (start ≤ i ∧ i < stop) := by omega
  rw [getElem?_fill]
  cases canvas[i]? with
  | none => rfl
  | some old =>
    rw [Option.map_some, if_neg]
    exact fun inside => apart ⟨inside.1, inside.2.1⟩

/-- Filling the first part of a canvas leaves the rest alone. -/
theorem fill_append_left {left : Canvas} (right : Canvas) {start stop : Nat} (style : Style)
    (overrides : Bool) (inside : stop ≤ left.length) :
    (left ++ right).fill start stop style overrides =
      left.fill start stop style overrides ++ right := by
  apply List.ext_getElem?
  intro i
  by_cases near : i < left.length
  · rw [List.getElem?_append_left (by simpa using near), getElem?_fill, getElem?_fill,
      List.getElem?_append_left near]
  · rw [getElem?_fill_of_outside _ _ _ (Or.inr (by omega)),
      List.getElem?_append_right (by omega), List.getElem?_append_right (by simpa using near),
      length_fill]

/-- Filling the second part of a canvas leaves the first alone. -/
theorem fill_append_right (left right : Canvas) (start stop : Nat) (style : Style)
    (overrides : Bool) :
    (left ++ right).fill (left.length + start) (left.length + stop) style overrides =
      left ++ right.fill start stop style overrides := by
  apply List.ext_getElem?
  intro i
  by_cases near : i < left.length
  · rw [getElem?_fill_of_outside _ _ _ (Or.inl (by omega)), List.getElem?_append_left near,
      List.getElem?_append_left near]
  · obtain ⟨j, rfl⟩ : ∃ j, i = left.length + j := ⟨i - left.length, by omega⟩
    rw [List.getElem?_append_right (by omega), getElem?_fill, getElem?_fill,
      List.getElem?_append_right (by omega), Nat.add_sub_cancel_left]
    simp only [Nat.add_le_add_iff_left, Nat.add_lt_add_iff_left]

/-- Filling nothing changes nothing. -/
theorem fill_of_le (canvas : Canvas) {start stop : Nat} (style : Style) (overrides : Bool)
    (nothing : stop ≤ start) : canvas.fill start stop style overrides = canvas := by
  apply List.ext_getElem?
  intro i
  exact getElem?_fill_of_outside _ _ _ (by omega)

end Canvas

/-! ## Targets -/

namespace Rule

theorem target_shift (rule : Rule) (offset : Nat) (found : Match) :
    rule.target (found.shift offset) =
      (rule.target found).map fun part => (offset + part.1, offset + part.2) := by
  unfold target
  split <;> rfl

theorem target_within {rule : Rule} {size : Nat} {found : Match} (inside : found.Within size)
    {part : Nat × Nat} (aims : rule.target found = some part) :
    part.1 ≤ part.2 ∧ part.2 ≤ size := by
  unfold target at aims
  split at aims
  · cases aims
    exact ⟨inside.ordered, inside.stop_le⟩
  · exact inside.group_le part aims

/-! ## Painting one match -/

@[simp] theorem length_paint (rule : Rule) (canvas : Canvas) (found : Match) :
    (rule.paint canvas found).length = canvas.length := by
  unfold paint
  split
  · rfl
  · split
    · exact Canvas.length_fill _ _ _ _ _
    · rfl

/-- A match in the first part of a canvas is painted there. -/
theorem paint_append_left (rule : Rule) {left : Canvas} (right : Canvas) {found : Match}
    (inside : found.Within left.length) :
    rule.paint (left ++ right) found = rule.paint left found ++ right := by
  unfold paint
  cases aims : rule.target found with
  | none => rfl
  | some part =>
    obtain ⟨start, stop⟩ := part
    obtain ⟨ordered, bound⟩ := target_within inside aims
    dsimp only at ordered bound ⊢
    by_cases near : start < left.length
    · rw [List.getElem?_append_left near, Canvas.fill_append_left right _ _ bound]
      split <;> rfl
    · -- the target is empty, so it does not matter whether the match is left out
      have nothing : stop ≤ start := by omega
      rw [Canvas.fill_of_le _ _ _ nothing, Canvas.fill_of_le _ _ _ nothing, ite_self, ite_self]

/-- A match in the second part of a canvas is painted there. -/
theorem paint_append_right (rule : Rule) (left right : Canvas) (found : Match) :
    rule.paint (left ++ right) (found.shift left.length) = left ++ rule.paint right found := by
  unfold paint
  rw [target_shift]
  cases aims : rule.target found with
  | none => rfl
  | some part =>
    obtain ⟨start, stop⟩ := part
    dsimp only [Option.map_some]
    rw [List.getElem?_append_right (Nat.le_add_right _ _), Nat.add_sub_cancel_left,
      Canvas.fill_append_right]
    split <;> rfl

/-- A match reaches no character outside its target. -/
theorem getElem?_paint_of_outside (rule : Rule) (canvas : Canvas) {found : Match} {i : Nat}
    (outside : ∀ part, rule.target found = some part → i < part.1 ∨ part.2 ≤ i) :
    (rule.paint canvas found)[i]? = canvas[i]? := by
  unfold paint
  split
  · rfl
  next start stop aims =>
    split
    · exact Canvas.getElem?_fill_of_outside _ _ _ (outside (start, stop) aims)
    · rfl

/-- A rule that does not override leaves painted characters as they are. -/
theorem getElem?_paint_of_styled {rule : Rule} (keeps : rule.overrides = false)
    {canvas : Canvas} (found : Match) {i : Nat} {style : Style}
    (styled : canvas[i]? = some (some style)) :
    (rule.paint canvas found)[i]? = some (some style) := by
  unfold paint
  split
  · exact styled
  · split
    · rw [Canvas.getElem?_fill, styled, keeps]
      simp
    · exact styled

/-- A match that begins on an unpainted character leaves none unpainted in its target. -/
theorem exists_getElem?_paint (rule : Rule) {canvas : Canvas} {found : Match} {start stop : Nat}
    (aims : rule.target found = some (start, stop)) (free : canvas[start]? = some none)
    {i : Nat} (low : start ≤ i) (high : i < stop) (inside : i < canvas.length) :
    ∃ style, (rule.paint canvas found)[i]? = some (some style) := by
  rw [paint, aims]
  simp only [free, Option.join_some, Option.isNone_none, Bool.or_true, ite_true]
  rw [Canvas.getElem?_fill, List.getElem?_eq_getElem inside, Option.map_some]
  cases canvas[i] with
  | none => exact ⟨rule.style, by simp [low, high]⟩
  | some style =>
    cases rule.overrides with
    | false => exact ⟨style, by simp⟩
    | true => exact ⟨rule.style, by simp [low, high]⟩

/-! ## Painting a list of matches -/

@[simp] theorem length_foldl_paint (rule : Rule) (found : List Match) (canvas : Canvas) :
    (found.foldl rule.paint canvas).length = canvas.length := by
  induction found generalizing canvas with
  | nil => rfl
  | cons first rest ih => rw [List.foldl_cons, ih, length_paint]

theorem foldl_paint_append_left (rule : Rule) {found : List Match} {left : Canvas}
    (right : Canvas) (inside : ∀ m ∈ found, m.Within left.length) :
    found.foldl rule.paint (left ++ right) = found.foldl rule.paint left ++ right := by
  induction found generalizing left with
  | nil => rfl
  | cons first rest ih =>
    rw [List.foldl_cons, List.foldl_cons,
      paint_append_left rule right (inside first List.mem_cons_self)]
    refine ih fun m later => ?_
    rw [length_paint]
    exact inside m (List.mem_cons_of_mem _ later)

theorem foldl_paint_append_right (rule : Rule) (found : List Match) (left right : Canvas) :
    (found.map (Match.shift left.length)).foldl rule.paint (left ++ right) =
      left ++ found.foldl rule.paint right := by
  induction found generalizing right with
  | nil => rfl
  | cons first rest ih =>
    rw [List.map_cons, List.foldl_cons, List.foldl_cons, paint_append_right, ih]

/-- Matches on either side of a cut paint the two parts of the canvas each for itself. -/
theorem foldl_paint_append (rule : Rule) {found : List Match} (later : List Match)
    {left : Canvas} (right : Canvas) (inside : ∀ m ∈ found, m.Within left.length) :
    (found ++ later.map (Match.shift left.length)).foldl rule.paint (left ++ right) =
      found.foldl rule.paint left ++ later.foldl rule.paint right := by
  rw [List.foldl_append, foldl_paint_append_left rule right inside]
  have shifted := foldl_paint_append_right rule later (found.foldl rule.paint left) right
  rw [length_foldl_paint] at shifted
  exact shifted

theorem getElem?_foldl_paint_of_styled {rule : Rule} (keeps : rule.overrides = false)
    (found : List Match) {canvas : Canvas} {i : Nat} {style : Style}
    (styled : canvas[i]? = some (some style)) :
    (found.foldl rule.paint canvas)[i]? = some (some style) := by
  induction found generalizing canvas with
  | nil => exact styled
  | cons first rest ih => exact ih (getElem?_paint_of_styled keeps first styled)

theorem getElem?_foldl_paint_of_outside (rule : Rule) {found : List Match} (canvas : Canvas)
    {i : Nat} (outside : ∀ m ∈ found, ∀ part, rule.target m = some part →
      i < part.1 ∨ part.2 ≤ i) :
    (found.foldl rule.paint canvas)[i]? = canvas[i]? := by
  induction found generalizing canvas with
  | nil => rfl
  | cons first rest ih =>
    rw [List.foldl_cons, ih _ fun m later => outside m (List.mem_cons_of_mem _ later),
      getElem?_paint_of_outside rule canvas (outside first List.mem_cons_self)]

/-! ## Coats -/

/-- The canvas after the matches of a rule in a text that follows the character `before`. -/
def coat (rule : Rule) (before : Option Char) (text : Text) (canvas : Canvas) : Canvas :=
  (rule.pattern.matchesIn before text).foldl rule.paint canvas

theorem apply_eq_coat {rule : Rule} (has : rule.groupExists = true) (before : Option Char)
    (text : Text) (canvas : Canvas) :
    rule.apply before text canvas = .ok (rule.coat before text canvas) := by
  rw [apply, if_pos has, coat]

@[simp] theorem length_coat (rule : Rule) (before : Option Char) (text : Text)
    (canvas : Canvas) : (rule.coat before text canvas).length = canvas.length :=
  length_foldl_paint _ _ _

theorem getElem?_coat_of_styled {rule : Rule} (keeps : rule.overrides = false)
    (before : Option Char) (text : Text) {canvas : Canvas} {i : Nat} {style : Style}
    (styled : canvas[i]? = some (some style)) :
    (rule.coat before text canvas)[i]? = some (some style) :=
  getElem?_foldl_paint_of_styled keeps _ styled

/-- A rule whose scan is cut at a character paints the two sides each for itself, and never the
character. -/
theorem coat_append_cut {rule : Rule} {text rest : Text} {cut : Char} {before : Option Char}
    (split : rule.pattern.matchesIn before (text ++ cut :: rest) =
      rule.pattern.matchesIn before text ++
        (rule.pattern.matchesIn (some cut) rest).map (Match.shift (text.length + 1)))
    {left : Canvas} (size : left.length = text.length) (cell : Option Style) (right : Canvas) :
    rule.coat before (text ++ cut :: rest) (left ++ cell :: right) =
      rule.coat before text left ++ cell :: rule.coat (some cut) rest right := by
  unfold coat
  have inside : ∀ m ∈ rule.pattern.matchesIn before text, m.Within left.length := by
    intro m member
    rw [size]
    exact Pattern.within_of_mem_matchesIn member
  have withCell : (left ++ [cell]).length = text.length + 1 := by simp [size]
  rw [split, List.append_cons, ← withCell,
    foldl_paint_append rule _ _ fun m member => (inside m member).mono (by simp),
    foldl_paint_append_left rule [cell] inside, List.append_assoc, List.singleton_append]

/-- A rule whose pattern is bound to its line paints the two sides of a line feed each for itself,
and never the line feed. -/
theorem coat_append_newline {rule : Rule} (bound : rule.pattern.lineBound = true) {text : Text}
    (closed : ¬ EndsInOpenDeclaration text) (rest : Text) (before : Option Char) {left : Canvas}
    (size : left.length = text.length) (cell : Option Style) (right : Canvas) :
    rule.coat before (text ++ '\n' :: rest) (left ++ cell :: right) =
      rule.coat before text left ++ cell :: rule.coat (some '\n') rest right :=
  coat_append_cut (Pattern.matchesIn_append_newline bound closed rest before) size cell right

/-- After a blank a rule paints as at the start of the text. -/
theorem coat_after_blank (rule : Rule) {b : Char} (blank : isBlank b = true) (text : Text)
    (canvas : Canvas) : rule.coat (some b) text canvas = rule.coat none text canvas := by
  rw [coat, coat, Pattern.matchesIn_after_blank _ blank]

/-- The whole matches of a rule that does not override are painted on an empty canvas. -/
theorem exists_getElem?_coat {rule : Rule} (keeps : rule.overrides = false)
    (whole : rule.group = 0) {before : Option Char} {text : Text} {found : Match}
    (member : found ∈ rule.pattern.matchesIn before text) {i : Nat} (low : found.start ≤ i)
    (high : i < found.stop) :
    ∃ style, (rule.coat before text (Canvas.empty text.length))[i]? = some (some style) := by
  have aims : ∀ m : Match, rule.target m = some (m.start, m.stop) := fun m => by
    rw [target, if_pos whole]
  have inside := Pattern.within_of_mem_matchesIn member
  have bound : i < text.length := Nat.lt_of_lt_of_le high inside.stop_le
  have ordered := Pattern.matchesFrom_pairwise rule.pattern 0 0 before text
  obtain ⟨earlier, later, split⟩ := List.append_of_mem member
  rw [Pattern.matchesIn] at split
  rw [split, List.pairwise_append] at ordered
  rw [coat, Pattern.matchesIn, split, List.foldl_append, List.foldl_cons]
  -- the matches before it stop before it starts, so it begins on an unpainted character
  have free : (earlier.foldl rule.paint (Canvas.empty text.length))[found.start]? =
      some none := by
    rw [getElem?_foldl_paint_of_outside]
    · rw [Canvas.empty, List.getElem?_replicate, if_pos (by omega)]
    · intro m inEarlier part target
      rw [aims] at target
      cases target
      exact Or.inr (ordered.2.2 m inEarlier found List.mem_cons_self)
  obtain ⟨style, painted⟩ := exists_getElem?_paint rule (aims found) free low high
    (by rw [length_foldl_paint, Canvas.length_empty]; exact bound)
  exact ⟨style, getElem?_foldl_paint_of_styled keeps later painted⟩

/-- A coat leaves the fully painted end of a canvas as it is. -/
theorem coat_append_styled {rule : Rule} (keeps : rule.overrides = false)
    (before : Option Char) (text : Text) (left : Canvas) {painted : Canvas}
    (styled : ∀ cell ∈ painted, cell ≠ none) :
    ∃ left' : Canvas, left'.length = left.length ∧
      rule.coat before text (left ++ painted) = left' ++ painted := by
  refine ⟨(rule.coat before text (left ++ painted)).take left.length, by simp, ?_⟩
  have size : (rule.coat before text (left ++ painted)).length =
      left.length + painted.length := by simp
  refine (List.take_append_drop left.length _).symm.trans (congrArg _ ?_)
  apply List.ext_getElem?
  intro i
  rw [List.getElem?_drop]
  by_cases inside : i < painted.length
  · obtain ⟨style, cell⟩ := Option.ne_none_iff_exists'.mp (styled _ (List.getElem_mem inside))
    have here : painted[i]? = some (some style) := by
      rw [List.getElem?_eq_getElem inside, cell]
    rw [here]
    apply getElem?_coat_of_styled keeps
    rw [List.getElem?_append_right (Nat.le_add_right _ _), Nat.add_sub_cancel_left, here]
  · rw [List.getElem?_eq_none (by omega), List.getElem?_eq_none (by omega)]

end Rule

/-- Rules whose groups exist paint a region one coat after the other. -/
theorem paintRegion_eq_foldl_coat {rules : List Rule}
    (groups : ∀ rule ∈ rules, rule.groupExists = true) (text : Text) (region : Region) :
    paintRegion rules text region =
      .ok (rules.foldl
        (fun canvas rule => rule.coat (region.before text) (region.body text) canvas)
        (Canvas.empty (region.body text).length)) := by
  unfold paintRegion
  generalize Canvas.empty (region.body text).length = canvas
  induction rules generalizing canvas with
  | nil => rfl
  | cons rule rest ih =>
    rw [List.foldlM_cons, Rule.apply_eq_coat (groups rule List.mem_cons_self)]
    exact ih (fun other later => groups other (List.mem_cons_of_mem _ later)) _

theorem length_foldl_coat (rules : List Rule) (before : Option Char) (text : Text)
    (canvas : Canvas) :
    (rules.foldl (fun canvas rule => rule.coat before text canvas) canvas).length =
      canvas.length := by
  induction rules generalizing canvas with
  | nil => rfl
  | cons rule rest ih => rw [List.foldl_cons, ih, Rule.length_coat]

/-- Rules that each paint the two sides of a cut for itself do so one after the other. -/
theorem foldl_coat_append_cut {rules : List Rule} {first second : Text} {cut : Char}
    (each : ∀ rule ∈ rules, ∀ (left : Canvas) (cell : Option Style) (right : Canvas),
      left.length = first.length →
      rule.coat none (first ++ cut :: second) (left ++ cell :: right) =
        rule.coat none first left ++ cell :: rule.coat none second right)
    {left : Canvas} (size : left.length = first.length) (cell : Option Style) (right : Canvas) :
    rules.foldl (fun canvas rule => rule.coat none (first ++ cut :: second) canvas)
        (left ++ cell :: right) =
      rules.foldl (fun canvas rule => rule.coat none first canvas) left ++
        cell :: rules.foldl (fun canvas rule => rule.coat none second canvas) right := by
  induction rules generalizing left right with
  | nil => rfl
  | cons rule rest ih =>
    simp only [List.foldl_cons]
    rw [each rule List.mem_cons_self left cell right size]
    exact ih (fun other later => each other (List.mem_cons_of_mem _ later))
      (by rw [Rule.length_coat, size]) _

/-- What is painted on the widened region is reported. -/
theorem classify_of_paintRegion {rules : List Rule} (text : Text) (start : Int)
    (stop : Option Int) {region : Region} {canvas : Canvas}
    (widened : (Region.extend text start (stop.getD text.length)).1 = region)
    (painted : paintRegion rules text region = .ok canvas) :
    classify rules text start stop = .ok (canvas.spans region.start) := by
  subst widened
  simp only [classify, painted]
  rfl

end TurtleEdit
