import TurtleEdit.Highlight.Region
import TurtleEdit.Proofs.Delimiters

/-!
Widening moves the ends of a region outward, and neither end comes to lie inside a long string.

The start of a region depends on the last long string opened before it, because the ones before
that stop where it opens at the latest. The stop is carried over the long strings in order; each
one either leaves it alone or carries it past its own end, so what a string has settled no later
one unsettles. A stop at the end of a line stays at the end of a line, and a start at the start of
a line stays there unless a long string holds it.
-/

namespace TurtleEdit

/-! ## Ends of lines -/

/-- The first line starts at 0, every other one after a line feed. -/
def IsLineStart (text : Text) (pos : Nat) : Prop :=
  pos = 0 ∨ ∃ before, pos = before + 1 ∧ text[before]? = some '\n'

/-- A line ends at its line feed, the last one at the end of the text. -/
def IsLineEnd (text : Text) (pos : Nat) : Prop := text[pos]? = some '\n' ∨ pos = text.length

theorem IsLineStart.le_length {text : Text} {pos : Nat} (starts : IsLineStart text pos) :
    pos ≤ text.length := by
  rcases starts with rfl | ⟨before, rfl, feed⟩
  · exact Nat.zero_le _
  · exact (List.getElem?_eq_some_iff.mp feed).1

theorem IsLineEnd.le_length {text : Text} {pos : Nat} (ends : IsLineEnd text pos) :
    pos ≤ text.length := by
  rcases ends with feed | rfl
  · exact Nat.le_of_lt (List.getElem?_eq_some_iff.mp feed).1
  · exact Nat.le_refl _

theorem le_lineEnd (text : Text) (pos : Nat) : pos ≤ lineEnd text pos := Nat.le_add_right _ _

theorem isLineEnd_lineEnd {text : Text} {pos : Nat} (inside : pos ≤ text.length) :
    IsLineEnd text (lineEnd text pos) := by
  have split : (text.drop pos).takeWhile (· != '\n') ++ (text.drop pos).dropWhile (· != '\n') =
      text.drop pos := List.takeWhile_append_dropWhile
  have size := congrArg List.length split
  rw [List.length_append, List.length_drop] at size
  have here : text[lineEnd text pos]? = ((text.drop pos).dropWhile (· != '\n')).head? := by
    calc text[lineEnd text pos]?
        = (text.drop pos)[((text.drop pos).takeWhile (· != '\n')).length]? := by
          rw [lineEnd, List.getElem?_drop]
      _ = ((text.drop pos).takeWhile (· != '\n') ++ (text.drop pos).dropWhile (· != '\n'))[
            ((text.drop pos).takeWhile (· != '\n')).length]? := by rw [split]
      _ = ((text.drop pos).dropWhile (· != '\n')).head? := by
          rw [List.getElem?_append_right (Nat.le_refl _), Nat.sub_self, List.head?_eq_getElem?]
  have feed := List.head?_dropWhile_not (· != '\n') (text.drop pos)
  rw [IsLineEnd, here]
  cases tail : (text.drop pos).dropWhile (· != '\n') with
  | nil =>
    rw [tail, List.length_nil] at size
    right
    rw [lineEnd]
    omega
  | cons c rest =>
    rw [tail] at feed
    left
    simpa using feed

theorem lineEnd_le_length {text : Text} {pos : Nat} (inside : pos ≤ text.length) :
    lineEnd text pos ≤ text.length :=
  (isLineEnd_lineEnd inside).le_length

/-- No line feed stands before the end of a line. -/
theorem ne_feed_of_lt_lineEnd {text : Text} {p k : Nat} (low : p ≤ k)
    (high : k < lineEnd text p) : text[k]? ≠ some '\n' := by
  intro feed
  have near : k - p < ((text.drop p).takeWhile (· != '\n')).length := by
    rw [lineEnd] at high
    omega
  have here := List.prefix_iff_getElem?.mp (List.takeWhile_prefix (· != '\n')) (k - p) near
  rw [List.getElem?_drop, Nat.add_sub_cancel' low, feed] at here
  have member := List.getElem_mem near
  rw [← Option.some.inj here] at member
  exact absurd (List.all_eq_true.mp List.all_takeWhile _ member) (by decide)

/-- The end of a line is the first one at or after each of its offsets. -/
theorem lineEnd_le_of_isLineEnd {text : Text} {pos stop : Nat} (low : pos ≤ stop)
    (ends : IsLineEnd text stop) : lineEnd text pos ≤ stop := by
  apply Nat.le_of_not_lt
  intro early
  rcases ends with feed | rfl
  · exact ne_feed_of_lt_lineEnd low early feed
  · exact absurd early (Nat.not_lt.mpr (lineEnd_le_length low))

theorem lineStart_le (text : Text) (pos : Nat) : lineStart text pos ≤ pos := Nat.sub_le _ _

theorem IsLineStart.lineStart_eq {text : Text} {pos : Nat} (starts : IsLineStart text pos) :
    lineStart text pos = pos := by
  rcases starts with rfl | ⟨before, rfl, feed⟩
  · exact Nat.zero_sub _
  · rw [lineStart, List.take_add_one, feed]
    simp

namespace LongString

/-! ## What holds an offset -/

/-- A string that does not hold an offset opens at or after it, or is closed before it. -/
theorem le_opener_or_stop_le {long : LongString} {pos : Nat} (free : ¬ long.holds pos = true)
    (size : Nat) : pos ≤ long.opener ∨ long.stop size ≤ pos := by
  rcases long with ⟨opener, _ | closer⟩
  · simp only [holds, Bool.and_true, decide_eq_true_eq] at free
    exact Or.inl (Nat.le_of_not_lt free)
  · simp only [holds, Bool.and_eq_true, decide_eq_true_eq] at free
    simp only [stop]
    omega

/-- A string that holds an offset of the text opens before it and does not stop before it. -/
theorem opener_lt_and_le_stop {long : LongString} {pos size : Nat} (held : long.holds pos = true)
    (inside : pos ≤ size) : long.opener < pos ∧ pos ≤ long.stop size := by
  rcases long with ⟨opener, _ | closer⟩
  · simp only [holds, Bool.and_true, decide_eq_true_eq] at held
    exact ⟨held, inside⟩
  · simp only [holds, Bool.and_eq_true, decide_eq_true_eq] at held
    exact ⟨held.1, Nat.le_of_lt held.2⟩

/-- The last string opened before an offset: all others opened before it stop where it opens. -/
theorem of_getLast?_opened {text : Text} {pos : Nat} {long : LongString}
    (last : ((all text).takeWhile (·.opener < pos)).getLast? = some long) :
    long ∈ all text ∧ long.opener < pos ∧
      ∀ other ∈ all text, other.opener < pos →
        other = long ∨ other.stop text.length ≤ long.opener := by
  obtain ⟨earlier, opened⟩ := List.getLast?_eq_some_iff.mp last
  have split : earlier ++ [long] ++ (all text).dropWhile (·.opener < pos) = all text := by
    rw [← opened]
    exact List.takeWhile_append_dropWhile
  have ordered := all_pairwise text
  rw [← split, List.pairwise_append, List.pairwise_append] at ordered
  obtain ⟨⟨-, -, beforeLast⟩, afterOrdered, -⟩ := ordered
  have member : long ∈ (all text).takeWhile (·.opener < pos) := by simp [opened]
  have opens : long.opener < pos := by
    simpa using List.all_eq_true.mp List.all_takeWhile long member
  refine ⟨List.takeWhile_subset _ member, opens, ?_⟩
  intro other inAll before
  rw [← split, List.mem_append, List.mem_append] at inAll
  rcases inAll with (inEarlier | isLast) | inLater
  · exact Or.inr (beforeLast other inEarlier long (List.mem_singleton_self _))
  · exact Or.inl (List.mem_singleton.mp isLast)
  · -- the first string that is dropped opens at `pos` or later, and the others open after it
    exfalso
    have firstLate := List.head?_dropWhile_not (fun long : LongString => long.opener < pos)
      (all text)
    cases late : (all text).dropWhile (·.opener < pos) with
    | nil => rw [late] at inLater; cases inLater
    | cons first rest =>
      rw [late] at inLater afterOrdered firstLate
      simp only [List.head?_cons, decide_eq_false_iff_not, Nat.not_lt] at firstLate
      rcases List.mem_cons.mp inLater with rfl | further
      · omega
      · have firstIn : first ∈ all text := by rw [← split, late]; simp
        have apart := (List.pairwise_cons.mp afterOrdered).1 other further
        have bounds := bounds_of_mem_all firstIn
        omega

end LongString

namespace Region

/-! ## The start -/

/-- The start moves back, and into no long string. -/
theorem widenStart_spec (text : Text) (pos : Nat) :
    widenStart text pos ≤ pos ∧
      ∀ long ∈ LongString.all text, ¬ long.Cuts text.length (widenStart text pos) := by
  unfold widenStart
  split
  case h_1 => exact ⟨Nat.zero_le _, fun long _ cuts => by have := cuts.1; omega⟩
  case h_2 long last =>
    obtain ⟨member, opened, others⟩ := LongString.of_getLast?_opened last
    split
    case isTrue held =>
      refine ⟨Nat.le_of_lt opened, fun other inAll cuts => ?_⟩
      rcases others other inAll (Nat.lt_trans cuts.1 opened) with rfl | before
      · exact Nat.lt_irrefl _ cuts.1
      · exact absurd cuts.2 (Nat.not_lt.mpr before)
    case isFalse free =>
      have stopped : long.stop text.length ≤ pos := by
        rcases LongString.le_opener_or_stop_le free text.length with late | stopped
        · omega
        · exact stopped
      have lineBefore := lineStart_le text pos
      refine ⟨Nat.max_le.mpr ⟨lineBefore, stopped⟩, fun other inAll cuts => ?_⟩
      have openedBefore : other.opener < pos := by
        have := cuts.1
        omega
      rcases others other inAll openedBefore with rfl | before
      · exact absurd cuts.2 (Nat.not_lt.mpr (Nat.le_max_right _ _))
      · have bounds := LongString.bounds_of_mem_all member
        have := cuts.2
        omega

/-- A region that starts with a line starts with the text, with the same line, or with the long
string that the line starts in. -/
theorem widenStart_of_isLineStart {text : Text} {pos : Nat} (starts : IsLineStart text pos) :
    widenStart text pos = 0 ∨ widenStart text pos = pos ∨
      ∃ long ∈ LongString.all text, widenStart text pos = long.opener ∧
        long.opener < pos ∧ pos ≤ long.stop text.length := by
  unfold widenStart
  split
  case h_1 => exact Or.inl rfl
  case h_2 long last =>
    obtain ⟨member, opened, -⟩ := LongString.of_getLast?_opened last
    split
    case isTrue held =>
      exact Or.inr (Or.inr ⟨long, member, rfl,
        LongString.opener_lt_and_le_stop held starts.le_length⟩)
    case isFalse free =>
      right; left
      rw [starts.lineStart_eq]
      rcases LongString.le_opener_or_stop_le free text.length with late | stopped
      · omega
      · exact Nat.max_eq_left stopped

/-! ## The stop -/

/-- One string settled: an offset that it holds moves to the end of the line where it stops. -/
def settleOver (text : Text) (pos : Nat) (long : LongString) : Nat :=
  if long.holds pos then lineEnd text (long.stop text.length) else pos

theorem settle_eq_foldl (text : Text) (pos : Nat) :
    settle text pos = (LongString.all text).foldl (settleOver text) pos := rfl

/-- Settling a string moves an offset of the text forward, inside the text. -/
theorem settleOver_bounds {text : Text} {pos : Nat} {long : LongString}
    (member : long ∈ LongString.all text) (inside : pos ≤ text.length) :
    pos ≤ settleOver text pos long ∧ settleOver text pos long ≤ text.length := by
  have bounds := LongString.bounds_of_mem_all member
  unfold settleOver
  split
  case isTrue held =>
    have reach := LongString.opener_lt_and_le_stop held inside
    exact ⟨Nat.le_trans reach.2 (le_lineEnd _ _), lineEnd_le_length bounds.2⟩
  case isFalse => exact ⟨Nat.le_refl _, inside⟩

/-- Strings that open at or after an offset do not move it. -/
theorem foldl_settleOver_of_le {text : Text} {pos : Nat} {longs : List LongString}
    (late : ∀ long ∈ longs, pos ≤ long.opener) : longs.foldl (settleOver text) pos = pos := by
  induction longs with
  | nil => rfl
  | cons long rest ih =>
    have free : ¬ long.holds pos = true := by
      intro held
      have opened := (LongString.opener_lt_and_le_stop held (Nat.le_refl pos)).1
      have := late long List.mem_cons_self
      omega
    rw [List.foldl_cons, settleOver, if_neg free]
    exact ih fun other member => late other (List.mem_cons_of_mem _ member)

/-- Settling strings that stand in order moves an offset forward, into none of them. -/
theorem foldl_settleOver_spec {text : Text} {longs : List LongString}
    (inText : ∀ long ∈ longs, long ∈ LongString.all text)
    (ordered : longs.Pairwise fun a b => a.stop text.length ≤ b.opener)
    {pos : Nat} (inside : pos ≤ text.length) :
    pos ≤ longs.foldl (settleOver text) pos ∧
      longs.foldl (settleOver text) pos ≤ text.length ∧
      ∀ long ∈ longs, ¬ long.Cuts text.length (longs.foldl (settleOver text) pos) := by
  induction longs generalizing pos with
  | nil => exact ⟨Nat.le_refl _, inside, fun _ member => nomatch member⟩
  | cons long rest ih =>
    have member := inText long List.mem_cons_self
    have bounds := LongString.bounds_of_mem_all member
    have moved := settleOver_bounds member inside
    obtain ⟨after, ordered⟩ := List.pairwise_cons.mp ordered
    obtain ⟨low, high, restUncut⟩ :=
      ih (fun other later => inText other (List.mem_cons_of_mem _ later)) ordered moved.2
    rw [List.foldl_cons]
    refine ⟨Nat.le_trans moved.1 low, high, fun other inCons => ?_⟩
    rcases List.mem_cons.mp inCons with rfl | later
    case inr => exact restUncut other later
    intro cuts
    by_cases held : other.holds pos = true
    · rw [settleOver, if_pos held] at low cuts
      have := le_lineEnd text (other.stop text.length)
      have := cuts.2
      omega
    · rcases LongString.le_opener_or_stop_le held text.length with late | stopped
      · -- the later strings open later still, so the offset stays at the opener or before it
        have stays : rest.foldl (settleOver text) (settleOver text pos other) = pos := by
          rw [settleOver, if_neg held]
          refine foldl_settleOver_of_le fun further laterStill => ?_
          have := after further laterStill
          omega
        rw [stays] at cuts
        have := cuts.1
        omega
      · have := cuts.2
        omega

/-- Settling moves an offset of the text forward, into no long string. -/
theorem settle_spec {text : Text} {pos : Nat} (inside : pos ≤ text.length) :
    pos ≤ settle text pos ∧ settle text pos ≤ text.length ∧
      ∀ long ∈ LongString.all text, ¬ long.Cuts text.length (settle text pos) :=
  foldl_settleOver_spec (fun _ member => member) (LongString.all_pairwise text) inside

/-- Settling strings leaves an offset where it is, or takes it to the end of a line. -/
theorem foldl_settleOver_eq_or_isLineEnd {text : Text} {longs : List LongString}
    (inText : ∀ long ∈ longs, long ∈ LongString.all text) (pos : Nat) :
    longs.foldl (settleOver text) pos = pos ∨
      IsLineEnd text (longs.foldl (settleOver text) pos) := by
  induction longs generalizing pos with
  | nil => exact Or.inl rfl
  | cons long rest ih =>
    have bounds := LongString.bounds_of_mem_all (inText long List.mem_cons_self)
    rw [List.foldl_cons]
    rcases ih (fun other later => inText other (List.mem_cons_of_mem _ later))
      (settleOver text pos long) with stays | ends
    · rw [stays]
      unfold settleOver
      split
      case isTrue => exact Or.inr (isLineEnd_lineEnd bounds.2)
      case isFalse => exact Or.inl rfl
    · exact Or.inr ends

/-- An offset settles where it is, or at the end of a line. -/
theorem settle_eq_or_isLineEnd (text : Text) (pos : Nat) :
    settle text pos = pos ∨ IsLineEnd text (settle text pos) :=
  foldl_settleOver_eq_or_isLineEnd (fun _ member => member) pos

/-- Settling takes the end of a line to the end of a line. -/
theorem isLineEnd_settle {text : Text} {pos : Nat} (ends : IsLineEnd text pos) :
    IsLineEnd text (settle text pos) := by
  rcases settle_eq_or_isLineEnd text pos with stays | moved
  · rwa [stays]
  · exact moved

/-- The stop moves forward, inside the text and into no long string. -/
theorem widenStop_spec {text : Text} {pos : Nat} (inside : pos ≤ text.length) :
    pos ≤ widenStop text pos ∧ widenStop text pos ≤ text.length ∧
      ∀ long ∈ LongString.all text, ¬ long.Cuts text.length (widenStop text pos) := by
  unfold widenStop
  split
  case h_1 d found =>
    have bound := delimiter_bound (List.mem_of_find?_eq_some found)
    have next : pos ≤ d := by simpa using List.find?_some found
    have onward := le_lineEnd text (d + 3)
    obtain ⟨low, rest⟩ := settle_spec (lineEnd_le_length bound)
    exact ⟨by omega, rest⟩
  case h_2 => exact settle_spec inside

/-- A region that stops with a line stops with a line when it is widened. -/
theorem isLineEnd_widenStop {text : Text} {pos : Nat} (ends : IsLineEnd text pos) :
    IsLineEnd text (widenStop text pos) := by
  unfold widenStop
  split
  case h_1 d found =>
    exact isLineEnd_settle
      (isLineEnd_lineEnd (delimiter_bound (List.mem_of_find?_eq_some found)))
  case h_2 => exact isLineEnd_settle ends

/-! ## The region -/

/-- Offsets are moved into the text, the start first. -/
theorem clamp_cast (size : Nat) (start stop : Int) :
    ((clamp size start stop).start : Int) = max 0 (min start size) ∧
      ((clamp size start stop).stop : Int) =
        max (max 0 (min start size)) (min stop size) := by
  have low : ((min start.toNat size : Nat) : Int) = max 0 (min start size) := by omega
  have high : ((min stop.toNat size : Nat) : Int) = max 0 (min stop size) := by omega
  refine ⟨low, ?_⟩
  rw [← low, clamp]
  generalize min start.toNat size = first at *
  generalize min stop.toNat size = last at *
  dsimp only
  omega

/-- Widening moves a region that lies in the text outward, and neither end into a long string. -/
theorem widen_spec {text : Text} {region : Region} (inside : region.stop ≤ text.length) :
    (region.widen text).start ≤ region.start ∧ region.stop ≤ (region.widen text).stop ∧
      (region.widen text).stop ≤ text.length ∧
      ∀ long ∈ LongString.all text, ¬ long.Cuts text.length (region.widen text).start ∧
        ¬ long.Cuts text.length (region.widen text).stop := by
  obtain ⟨back, startFree⟩ := widenStart_spec text region.start
  obtain ⟨onward, within, stopFree⟩ := widenStop_spec inside
  exact ⟨back, onward, within, fun long member => ⟨startFree long member, stopFree long member⟩⟩

/-- Offsets of the text in order are widened as they are. -/
theorem extend_of_le {text : Text} {start stop : Nat} (ordered : start ≤ stop)
    (inside : stop ≤ text.length) :
    (extend text start stop).1 = ⟨widenStart text start, widenStop text stop⟩ := by
  have kept : clamp text.length start stop = ⟨start, stop⟩ := by
    simp only [clamp, mk.injEq]
    omega
  simp only [extend, kept, widen]

/-- The whole text is not widened. -/
theorem extend_whole (text : Text) : (extend text 0 text.length).1 = ⟨0, text.length⟩ := by
  obtain ⟨back, -⟩ := widenStart_spec text 0
  obtain ⟨onward, inside, -⟩ := widenStop_spec (Nat.le_refl text.length)
  have whole := extend_of_le (Nat.zero_le text.length) (Nat.le_refl text.length)
  rwa [Nat.le_zero.mp back, Nat.le_antisymm inside onward] at whole

/-- For all integer offsets, the widened region reaches around the clamped offsets inside the text,
and no long string reaches over either of its ends. -/
theorem extend_cuts_no_longString (text : Text) (start stop : Int) :
    let low : Int := max 0 (min start text.length)
    let high : Int := max low (min stop text.length)
    let wide := (extend text start stop).1
    0 ≤ (wide.start : Int) ∧ (wide.start : Int) ≤ low ∧ low ≤ high ∧ high ≤ wide.stop ∧
      wide.stop ≤ text.length ∧
      ∀ long ∈ LongString.all text,
        ¬ (long.opener < wide.start ∧ wide.start < long.stop text.length) ∧
        ¬ (long.opener < wide.stop ∧ wide.stop < long.stop text.length) := by
  intro low high wide
  obtain ⟨startEq, stopEq⟩ := clamp_cast text.length start stop
  have inside : (clamp text.length start stop).stop ≤ text.length := by omega
  obtain ⟨back, onward, within, uncut⟩ := widen_spec inside
  refine ⟨Int.natCast_nonneg _, ?_, Int.le_max_left _ _, ?_, within, uncut⟩
  · exact Int.le_trans (Int.ofNat_le.mpr back) (Int.le_of_eq startEq)
  · exact Int.le_trans (Int.le_of_eq stopEq.symm) (Int.ofNat_le.mpr onward)

/-- Both ends of the region asked for stand inside delimiters of one long string, the closing one
being the first three of four quotes. -/
theorem extend_cuts_no_longString_inside :
    let text := "a\n\"\"\"b\nc\"\"\"\" d".toList
    extend text 3 10 = (⟨2, 14⟩, [.widened 3 10 2 14]) ∧
      ¬ (2 < (extend text 3 10).1.start ∧ (extend text 3 10).1.start < 11) ∧
      ¬ (2 < (extend text 3 10).1.stop ∧ (extend text 3 10).1.stop < 11) := by
  intro text
  exact ⟨by decide, (extend_cuts_no_longString text 3 10).2.2.2.2.2 ⟨2, some 8⟩ (by decide)⟩

end Region

end TurtleEdit
