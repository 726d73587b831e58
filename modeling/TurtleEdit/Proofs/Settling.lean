import Mathlib.Order.Bounds.Basic
import TurtleEdit.Proofs.Widening

/-!
An offset settles in a bounded number of turns, at the first place where it can.

A turn looks at the delimiters before the offset. After an odd number of them a long string was
opened and not closed: the offset moves to the end of the line where the next delimiter closes it,
or to the end of the text. After an even number the last of them may still reach over the offset,
which then moves to the end of its line. Otherwise the offset rests. Such a turn finds the long
string that holds the offset, if one does, and a string that was left behind holds no later offset.
So there are no more turns that move than there are long strings, and together they are one pass
over the strings.

Where the offset comes to rest is the first place at or after it that no string reaches over, among
the offset itself and the ends of lines: a turn passes over ends of lines only inside a string.

The number of delimiters before an end of a region also tells where widening has to move that end,
so a region can be widened without pairing the delimiters: by their number before the start and
behind the stop, and by turns from there.
-/

namespace TurtleEdit

namespace LongString

/-- A string holds no offset from the end of its closing delimiter on. -/
theorem not_holds_of_le {long : LongString} {closer pos : Nat} (closes : long.closer = some closer)
    (behind : closer + 3 ≤ pos) : long.holds pos = false := by
  rcases long with ⟨opener, _ | last⟩
  · cases closes
  · cases closes
    simp only [holds, Bool.and_eq_false_iff, decide_eq_false_iff_not]
    exact Or.inr (by omega)

theorem not_holds_of_le_opener {long : LongString} {pos : Nat} (late : pos ≤ long.opener) :
    long.holds pos = false := by
  rw [holds, decide_eq_false (Nat.not_lt.mpr late), Bool.false_and]

/-- Only a string that is never closed holds its own end. -/
theorem stop_eq_of_holds {long : LongString} {size : Nat}
    (held : long.holds (long.stop size) = true) : long.stop size = size := by
  rcases long with ⟨opener, _ | closer⟩
  · rfl
  · simp [holds, stop] at held

/-- Strings that open at or after an offset do not hold it. -/
theorem find?_holds_eq_none {longs : List LongString} {pos : Nat}
    (late : ∀ long ∈ longs, pos ≤ long.opener) : longs.find? (·.holds pos) = none := by
  refine List.find?_eq_none.mpr fun long member held => ?_
  rw [not_holds_of_le_opener (late long member)] at held
  cases held

end LongString

namespace Region

/-! ## Turns -/

/-- What a turn makes of an offset. -/
inductive Turn where
  /-- The offset stays where it is from now on. -/
  | rests (pos : Nat)
  /-- The offset goes on, and takes another turn. -/
  | moves (pos : Nat)
  deriving DecidableEq, Repr

/-- One turn, which counts the delimiters before an offset. -/
def turn (text : Text) (found : List Nat) (pos : Nat) : Turn :=
  let before := found.takeWhile (· < pos)
  if before.length % 2 = 1 then
    match (found.dropWhile (· < pos)).head? with
    | some closer => .moves (lineEnd text (closer + 3))
    | none => .rests text.length
  else
    match before.getLast? with
    | some closer => if pos < closer + 3 then .moves (lineEnd text (closer + 3)) else .rests pos
    | none => .rests pos

/-- Takes turns until the offset rests, which it has to do within the given number of them. -/
def settleWithin (text : Text) : Nat → Nat → Option Nat
  | 0, _ => none
  | turns + 1, pos =>
    match turn text (delimiters text) pos with
    | .rests pos => some pos
    | .moves pos => settleWithin text turns pos

/-- A turn told by the long string that holds the offset. -/
def turnOver (text : Text) (pos : Nat) (held : Option LongString) : Turn :=
  match held with
  | none => .rests pos
  | some long =>
    match long.closer with
    | some closer => .moves (lineEnd text (closer + 3))
    | none => .rests text.length

theorem takeWhile_lt_eq_nil {found : List Nat} {pos : Nat} (late : ∀ d ∈ found, pos ≤ d) :
    found.takeWhile (· < pos) = [] := by
  cases found with
  | nil => rfl
  | cons first rest =>
    have := late first List.mem_cons_self
    exact List.takeWhile_cons_of_neg (by simpa using this)

/-- An offset that does not come after the first delimiter comes after none of them. -/
theorem le_of_pairwise_cons {first pos : Nat} {rest : List Nat}
    (apart : (first :: rest).Pairwise fun d e => d + 3 ≤ e) (late : pos ≤ first) :
    ∀ d ∈ first :: rest, pos ≤ d := by
  intro d member
  rcases List.mem_cons.mp member with rfl | later
  · exact late
  · have := (List.pairwise_cons.mp apart).1 d later
    omega

/-- An offset before all delimiters rests. -/
theorem turn_of_late (text : Text) {found : List Nat} {pos : Nat} (late : ∀ d ∈ found, pos ≤ d) :
    turn text found pos = .rests pos := by
  simp [turn, takeWhile_lt_eq_nil late]

/-- An offset in the first string, before or inside its closing delimiter, moves behind it. -/
theorem turn_of_first (text : Text) {opener closer pos : Nat} {rest : List Nat}
    (apart : ∀ d ∈ rest, closer + 3 ≤ d) (opened : opener < pos) (inside : pos < closer + 3) :
    turn text (opener :: closer :: rest) pos = .moves (lineEnd text (closer + 3)) := by
  by_cases closed : closer < pos
  · have late : ∀ d ∈ rest, pos ≤ d := fun d member =>
      Nat.le_trans (Nat.le_of_lt inside) (apart d member)
    simp [turn, opened, closed, takeWhile_lt_eq_nil late, inside]
  · simp [turn, opened, closed]

/-- A string that was closed before the offset does not count. -/
theorem turn_cons_cons (text : Text) {opener closer pos : Nat} (rest : List Nat)
    (opened : opener < pos) (behind : closer + 3 ≤ pos) :
    turn text (opener :: closer :: rest) pos = turn text rest pos := by
  have closed : closer < pos := by omega
  have left : ¬ pos < closer + 3 := Nat.not_lt.mpr behind
  have before : (opener :: closer :: rest).takeWhile (· < pos) =
      opener :: closer :: rest.takeWhile (· < pos) := by simp [opened, closed]
  have after : (opener :: closer :: rest).dropWhile (· < pos) = rest.dropWhile (· < pos) := by
    simp [opened, closed]
  have parity : (opener :: closer :: rest.takeWhile (· < pos)).length % 2 =
      (rest.takeWhile (· < pos)).length % 2 := by
    rw [List.length_cons, List.length_cons]
    omega
  rw [turn, turn, before, after, parity]
  cases rest.takeWhile (· < pos) with
  | nil => simp [left]
  | cons first others => rw [List.getLast?_cons_cons, List.getLast?_cons_cons]

/-- The number of delimiters before an offset tells which long string holds it. -/
theorem turn_eq_turnOver (text : Text) {found : List Nat}
    (apart : found.Pairwise fun d e => d + 3 ≤ e) (pos : Nat) :
    turn text found pos = turnOver text pos ((LongString.pair found).find? (·.holds pos)) := by
  induction found using LongString.pair.induct with
  | case1 opener closer rest ih =>
    obtain ⟨afterOpener, apartCloser⟩ := List.pairwise_cons.mp apart
    obtain ⟨afterCloser, apartRest⟩ := List.pairwise_cons.mp apartCloser
    have order := afterOpener closer List.mem_cons_self
    by_cases opened : opener < pos
    · by_cases inside : pos < closer + 3
      · have held : LongString.holds ⟨opener, some closer⟩ pos = true := by
          simp [LongString.holds, opened, inside]
        rw [LongString.pair, List.find?_cons, held, turn_of_first text afterCloser opened inside]
        rfl
      · have free : LongString.holds ⟨opener, some closer⟩ pos = false :=
          LongString.not_holds_of_le rfl (by omega)
        rw [LongString.pair, List.find?_cons, free, ← ih apartRest,
          turn_cons_cons text rest opened (by omega)]
    · have late := le_of_pairwise_cons apart (Nat.le_of_not_lt opened)
      have unheld := LongString.find?_holds_eq_none fun long member =>
        late long.opener (LongString.of_mem_pair member).1
      rw [turn_of_late text late, unheld, turnOver]
  | case2 opener =>
    by_cases opened : opener < pos
    · simp [turn, turnOver, LongString.pair, LongString.holds, opened]
    · simp [turn, turnOver, LongString.pair, LongString.holds, opened]
  | case3 => rfl

/-! ## One pass -/

theorem lineEnd_length (text : Text) : lineEnd text text.length = text.length :=
  Nat.le_antisymm (lineEnd_le_length (Nat.le_refl _)) (le_lineEnd _ _)

/-- The last strings of a text, ahead of an offset: those before them hold neither it nor any offset
after it. -/
def Ahead (text : Text) (pos : Nat) (longs : List LongString) : Prop :=
  ∃ passed, LongString.all text = passed ++ longs ∧
    ∀ long ∈ passed, ∀ later, pos ≤ later → long.holds later = false

theorem ahead_all (text : Text) (pos : Nat) : Ahead text pos (LongString.all text) :=
  ⟨[], rfl, fun _ member => nomatch member⟩

namespace Ahead

variable {text : Text} {pos : Nat} {long : LongString} {longs rest : List LongString}

/-- A turn looks only at the strings ahead. -/
theorem turn_eq (ahead : Ahead text pos longs) :
    turn text (delimiters text) pos = turnOver text pos (longs.find? (·.holds pos)) := by
  obtain ⟨passed, split, behind⟩ := ahead
  have free : passed.find? (·.holds pos) = none :=
    List.find?_eq_none.mpr fun long member => by
      rw [behind long member pos (Nat.le_refl _)]
      exact Bool.false_ne_true
  have apart : (delimiters text).Pairwise fun d e => d + 3 ≤ e := delimitersFrom_pairwise 0 text
  rw [turn_eq_turnOver text apart, ← LongString.all, split, List.find?_append, free,
    Option.none_or]

/-- The strings behind the first one open after it stops. -/
theorem stop_le (ahead : Ahead text pos (long :: rest)) :
    ∀ other ∈ rest, long.stop text.length ≤ other.opener := by
  obtain ⟨passed, split, -⟩ := ahead
  have ordered := LongString.all_pairwise text
  rw [split, List.pairwise_append] at ordered
  exact (List.pairwise_cons.mp ordered.2.1).1

/-- An offset that the first string ahead opens after is before all of them. -/
theorem le_opener (ahead : Ahead text pos (long :: rest)) (late : pos ≤ long.opener) :
    ∀ other ∈ long :: rest, pos ≤ other.opener := by
  have member : long ∈ LongString.all text := by
    obtain ⟨passed, split, -⟩ := ahead
    simp [split]
  have bounds := LongString.bounds_of_mem_all member
  intro other inCons
  rcases List.mem_cons.mp inCons with rfl | later
  · exact late
  · have behind := ahead.stop_le other later
    omega

/-- Past the end of the first string, the others are ahead. -/
theorem pass (ahead : Ahead text pos (long :: rest)) {closer next : Nat}
    (closes : long.closer = some closer) (onward : pos ≤ next) (behind : closer + 3 ≤ next) :
    Ahead text next rest := by
  obtain ⟨passed, split, unheld⟩ := ahead
  refine ⟨passed ++ [long], by rw [split, List.append_assoc, List.singleton_append], ?_⟩
  intro other member later low
  rcases List.mem_append.mp member with earlier | last
  · exact unheld other earlier later (Nat.le_trans onward low)
  · rw [List.mem_singleton.mp last]
    exact LongString.not_holds_of_le closes (Nat.le_trans behind low)

end Ahead

/-- The turns are one pass over the strings ahead, and each string takes one of them at most. -/
theorem settleWithin_eq_foldl {text : Text} {pos turns : Nat} {longs : List LongString}
    (ahead : Ahead text pos longs) (enough : longs.length < turns) :
    settleWithin text turns pos = some (longs.foldl (settleOver text) pos) := by
  induction longs generalizing pos turns with
  | nil =>
    obtain ⟨turns, rfl⟩ : ∃ n, turns = n + 1 := ⟨turns - 1, by omega⟩
    rw [settleWithin, ahead.turn_eq]
    rfl
  | cons long rest ih =>
    rw [List.length_cons] at enough
    obtain ⟨turns, rfl⟩ : ∃ n, turns = n + 1 := ⟨turns - 1, by omega⟩
    by_cases late : pos ≤ long.opener
    · have allLate := ahead.le_opener late
      rw [settleWithin, ahead.turn_eq, LongString.find?_holds_eq_none allLate, turnOver,
        foldl_settleOver_of_le allLate]
    · rw [List.foldl_cons]
      cases closes : long.closer with
      | none =>
        -- a string that is never closed is the last one, and takes the offset to the end
        have held : long.holds pos = true := by
          rw [LongString.holds, closes, Bool.and_true, decide_eq_true_eq]
          omega
        have stops : long.stop text.length = text.length := by rw [LongString.stop, closes]
        have last := ahead.stop_le
        rw [stops] at last
        rw [settleWithin, ahead.turn_eq, List.find?_cons, held, settleOver, if_pos held, stops,
          lineEnd_length, foldl_settleOver_of_le last]
        simp only [turnOver, closes]
      | some closer =>
        have stops : long.stop text.length = closer + 3 := by rw [LongString.stop, closes]
        by_cases inside : pos < closer + 3
        · have held : long.holds pos = true := by
            rw [LongString.holds, closes, Bool.and_eq_true, decide_eq_true_eq, decide_eq_true_eq]
            omega
          have onward := le_lineEnd text (closer + 3)
          have next := ahead.pass closes (by omega) onward
          rw [settleWithin, ahead.turn_eq, List.find?_cons, held, settleOver, if_pos held, stops]
          simp only [turnOver, closes]
          exact ih next (by omega)
        · have free := LongString.not_holds_of_le closes (Nat.le_of_not_lt inside)
          have next := ahead.pass closes (Nat.le_refl pos) (Nat.le_of_not_lt inside)
          rw [settleOver, if_neg (by rw [free]; exact Bool.false_ne_true)]
          exact ih next (by omega)

/-! ## The first place -/

/-- A place where an offset may settle: itself or the end of a line after it, inside no string. -/
def IsRest (text : Text) (pos stop : Nat) : Prop :=
  pos ≤ stop ∧ (stop = pos ∨ IsLineEnd text stop) ∧
    ∀ long ∈ LongString.all text, ¬ long.Cuts text.length stop

/-- A string that carries an offset on carries it no further than to any place where it may
settle. -/
theorem IsRest.settleOver {text : Text} {pos stop : Nat} (rests : IsRest text pos stop)
    (inside : pos ≤ text.length) {long : LongString} (member : long ∈ LongString.all text) :
    IsRest text (settleOver text pos long) stop := by
  obtain ⟨low, place, free⟩ := rests
  unfold Region.settleOver
  split
  case isFalse => exact ⟨low, place, free⟩
  case isTrue held =>
    have reach := LongString.opener_lt_and_le_stop held inside
    have beyond : long.stop text.length ≤ stop := by
      apply Nat.le_of_not_lt
      intro short
      exact free long member ⟨by omega, short⟩
    have ends : IsLineEnd text stop := by
      rcases place with rfl | ends
      · -- the string holds its own end, so it is never closed
        right
        have same : stop = long.stop text.length := Nat.le_antisymm reach.2 beyond
        rw [same] at held
        exact same.trans (LongString.stop_eq_of_holds held)
      · exact ends
    exact ⟨lineEnd_le_of_isLineEnd beyond ends, Or.inr ends, free⟩

theorem IsRest.foldl_le {text : Text} {pos stop : Nat} (rests : IsRest text pos stop)
    (inside : pos ≤ text.length) {longs : List LongString}
    (inText : ∀ long ∈ longs, long ∈ LongString.all text) :
    longs.foldl (Region.settleOver text) pos ≤ stop := by
  induction longs generalizing pos with
  | nil => exact rests.1
  | cons long rest ih =>
    have member := inText long List.mem_cons_self
    rw [List.foldl_cons]
    exact ih (rests.settleOver inside member) (settleOver_bounds member inside).2
      fun other later => inText other (List.mem_cons_of_mem _ later)

/-- An offset of a text settles after one turn more than there are long strings, at the latest. It
comes to rest at the first of the offset itself, the line feeds after it and the end of the text
that lies strictly inside no long string. -/
theorem settle_rests_first {text : Text} {pos : Nat} (inside : pos ≤ text.length) :
    (∀ turns, (LongString.all text).length < turns →
      settleWithin text turns pos = some (settle text pos)) ∧
    IsLeast {stop | pos ≤ stop ∧
      (stop = pos ∨ text[stop]? = some '\n' ∨ stop = text.length) ∧
      ∀ long ∈ LongString.all text,
        ¬ (long.opener < stop ∧ stop < long.stop text.length)} (settle text pos) := by
  obtain ⟨onward, -, uncut⟩ := settle_spec inside
  refine ⟨?_, ⟨onward, settle_eq_or_isLineEnd text pos, uncut⟩, ?_⟩
  · intro turns enough
    rw [settle_eq_foldl]
    exact settleWithin_eq_foldl (ahead_all text pos) enough
  · intro stop rests
    rw [settle_eq_foldl]
    exact IsRest.foldl_le rests inside fun _ member => member

/-- The end of the line where the first string is closed lies inside a second one. -/
theorem settle_rests_first_chain :
    let text := "\"\"\"a\nb\"\"\" \"\"\"c\nd\"\"\"\ne".toList
    4 ≤ text.length ∧ settleWithin text 2 4 = none ∧ settleWithin text 3 4 = some 19 ∧
      IsLeast {stop | 4 ≤ stop ∧ (stop = 4 ∨ text[stop]? = some '\n' ∨ stop = text.length) ∧
        ∀ long ∈ LongString.all text,
          ¬ (long.opener < stop ∧ stop < long.stop text.length)} 19 := by
  intro text
  obtain ⟨ends, least⟩ := @settle_rests_first text 4 (by decide)
  have rests : settle text 4 = 19 := by decide
  rw [rests] at ends least
  exact ⟨by decide, by decide, ends 3 (by decide), least⟩

/-! ## Widening by counts -/

/-- How many of the offsets `found`, which are in order, come before `pos`. -/
def countBefore (found : List Nat) (pos : Nat) : Nat := (found.takeWhile (· < pos)).length

/-- Where a region that starts at `pos` has to start, by the number of delimiters before it: after
an odd number the last of them opened a string, and after an even one it closed the string that the
one before it had opened. -/
def startByCount (text : Text) (found : List Nat) (pos : Nat) : Nat :=
  let count := countBefore found pos
  if count = 0 then 0
  else if count % 2 = 1 then found.getD (count - 1) 0
  else if pos < found.getD (count - 1) 0 + 3 then found.getD (count - 2) 0
  else max (lineStart text pos) (found.getD (count - 1) 0 + 3)

/-- Where a region that stops at `pos` has to stop, by the number of delimiters before it and within
some turns. -/
def stopWithin (text : Text) (turns pos : Nat) : Option Nat :=
  let found := delimiters text
  let count := countBefore found pos
  if count < found.length then
    settleWithin text turns (lineEnd text (found.getD count 0 + 3))
  else settleWithin text turns pos

/-- The widened region of two offsets, by counts of delimiters. -/
def extendWithin (text : Text) (turns : Nat) (start stop : Int) : Option Region :=
  let asked := clamp text.length start stop
  (stopWithin text turns asked.stop).map
    fun stop => ⟨startByCount text (delimiters text) asked.start, stop⟩

/-- Where a region that starts at `pos` has to start, by the last string opened before it. -/
def startOver (text : Text) (pos : Nat) (last : Option LongString) : Nat :=
  match last with
  | none => 0
  | some long =>
    if long.holds pos then long.opener
    else max (lineStart text pos) (long.stop text.length)

theorem countBefore_of_late {found : List Nat} {pos : Nat} (late : ∀ d ∈ found, pos ≤ d) :
    countBefore found pos = 0 := by
  rw [countBefore, takeWhile_lt_eq_nil late, List.length_nil]

theorem countBefore_cons {d : Nat} (found : List Nat) {pos : Nat} (early : d < pos) :
    countBefore (d :: found) pos = countBefore found pos + 1 := by
  simp [countBefore, early]

/-- Strings whose delimiters do not come before an offset are not opened before it. -/
theorem takeWhile_opener_eq_nil {found : List Nat} {pos : Nat} (late : ∀ d ∈ found, pos ≤ d) :
    (LongString.pair found).takeWhile (·.opener < pos) = [] := by
  cases strings : LongString.pair found with
  | nil => rfl
  | cons long rest =>
    have member : long ∈ LongString.pair found := by simp [strings]
    have := late long.opener (LongString.of_mem_pair member).1
    exact List.takeWhile_cons_of_neg (by simpa using this)

theorem exists_takeWhile_opener_eq_cons {d pos : Nat} (found : List Nat) (early : d < pos) :
    ∃ long longs, (LongString.pair (d :: found)).takeWhile (·.opener < pos) = long :: longs := by
  cases found with
  | nil => exact ⟨⟨d, none⟩, [], by simp [LongString.pair, early]⟩
  | cons closer rest =>
    exact ⟨⟨d, some closer⟩, (LongString.pair rest).takeWhile (·.opener < pos),
      by simp [LongString.pair, early]⟩

/-- Delimiters in order all come at or after an offset, or the first of them comes before it. -/
theorem late_or_exists_cons {found : List Nat} (apart : found.Pairwise fun d e => d + 3 ≤ e)
    (pos : Nat) :
    (∀ d ∈ found, pos ≤ d) ∨ ∃ d rest, found = d :: rest ∧ d < pos := by
  cases found with
  | nil => exact Or.inl fun _ member => nomatch member
  | cons first rest =>
    by_cases early : first < pos
    · exact Or.inr ⟨first, rest, rfl, early⟩
    · exact Or.inl (le_of_pairwise_cons apart (Nat.le_of_not_lt early))

/-- An offset in the first string, before or inside its closing delimiter, starts where the string
does. -/
theorem startByCount_of_first (text : Text) {opener closer pos : Nat} {rest : List Nat}
    (apart : ∀ d ∈ rest, closer + 3 ≤ d) (opened : opener < pos) (inside : pos < closer + 3) :
    startByCount text (opener :: closer :: rest) pos = opener := by
  by_cases closed : closer < pos
  · have late : ∀ d ∈ rest, pos ≤ d := fun d member =>
      Nat.le_trans (Nat.le_of_lt inside) (apart d member)
    simp [startByCount, countBefore_cons _ opened, countBefore_cons _ closed,
      countBefore_of_late late, inside]
  · have count : countBefore (closer :: rest) pos = 0 := by simp [countBefore, closed]
    simp [startByCount, countBefore_cons _ opened, count]

/-- An offset behind the first string and before the others starts with its line, but not inside
that string. -/
theorem startByCount_of_late (text : Text) {opener closer pos : Nat} {rest : List Nat}
    (late : ∀ d ∈ rest, pos ≤ d) (opened : opener < pos) (behind : closer + 3 ≤ pos) :
    startByCount text (opener :: closer :: rest) pos = max (lineStart text pos) (closer + 3) := by
  have closed : closer < pos := by omega
  simp [startByCount, countBefore_cons _ opened, countBefore_cons _ closed,
    countBefore_of_late late, Nat.not_lt.mpr behind]

/-- A closed string with another delimiter behind it before the offset does not count. -/
theorem startByCount_cons_cons (text : Text) {opener closer pos : Nat} {rest : List Nat}
    (opened : opener < pos) (closed : closer < pos) (counts : countBefore rest pos ≠ 0) :
    startByCount text (opener :: closer :: rest) pos = startByCount text rest pos := by
  obtain ⟨n, count⟩ := Nat.exists_eq_succ_of_ne_zero counts
  have both : countBefore (opener :: closer :: rest) pos = n + 1 + 1 + 1 := by
    rw [countBefore_cons _ opened, countBefore_cons _ closed, count]
  have parity : (n + 1 + 1 + 1) % 2 = (n + 1) % 2 := by omega
  simp only [startByCount, both, count, parity]
  cases n with
  | zero => rfl
  | succ m => rfl

/-- The number of delimiters before an offset tells where a region that starts there has to start:
it tells the last string opened before the offset, and whether that one holds it. -/
theorem startByCount_eq_startOver (text : Text) {found : List Nat}
    (apart : found.Pairwise fun d e => d + 3 ≤ e) (pos : Nat) :
    startByCount text found pos =
      startOver text pos (((LongString.pair found).takeWhile (·.opener < pos)).getLast?) := by
  induction found using LongString.pair.induct with
  | case1 opener closer rest ih =>
    obtain ⟨afterOpener, apartCloser⟩ := List.pairwise_cons.mp apart
    obtain ⟨afterCloser, apartRest⟩ := List.pairwise_cons.mp apartCloser
    have order := afterOpener closer List.mem_cons_self
    by_cases opened : opener < pos
    · have first : LongString.pair (opener :: closer :: rest) =
          ⟨opener, some closer⟩ :: LongString.pair rest := rfl
      rw [first, List.takeWhile_cons_of_pos (by simpa using opened)]
      by_cases inside : pos < closer + 3
      · have late : ∀ d ∈ rest, pos ≤ d := fun d member =>
          Nat.le_trans (Nat.le_of_lt inside) (afterCloser d member)
        have held : LongString.holds ⟨opener, some closer⟩ pos = true := by
          simp [LongString.holds, opened, inside]
        rw [startByCount_of_first text afterCloser opened inside, takeWhile_opener_eq_nil late,
          List.getLast?_singleton, startOver, if_pos held]
      · have behind := Nat.le_of_not_lt inside
        rcases late_or_exists_cons apartRest pos with late | ⟨d, more, rfl, early⟩
        · have free : ¬ LongString.holds ⟨opener, some closer⟩ pos = true := by
            simp [LongString.holds, inside]
          rw [startByCount_of_late text late opened behind, takeWhile_opener_eq_nil late,
            List.getLast?_singleton, startOver, if_neg free, LongString.stop]
        · -- another string is opened before the offset, so the first one says nothing of it
          have closed : closer < pos := by omega
          have counts : countBefore (d :: more) pos ≠ 0 := by
            rw [countBefore_cons more early]
            exact Nat.succ_ne_zero _
          obtain ⟨long, longs, taken⟩ := exists_takeWhile_opener_eq_cons more early
          rw [startByCount_cons_cons text opened closed counts, ih apartRest, taken,
            List.getLast?_cons_cons]
    · have late := le_of_pairwise_cons apart (Nat.le_of_not_lt opened)
      rw [takeWhile_opener_eq_nil late, startByCount, countBefore_of_late late]
      rfl
  | case2 opener =>
    by_cases opened : opener < pos
    · simp [startByCount, startOver, countBefore, LongString.pair, LongString.holds, opened]
    · simp [startByCount, startOver, countBefore, LongString.pair, opened]
  | case3 => rfl

theorem widenStart_eq_startByCount (text : Text) (pos : Nat) :
    widenStart text pos = startByCount text (delimiters text) pos := by
  have apart : (delimiters text).Pairwise fun d e => d + 3 ≤ e := delimitersFrom_pairwise 0 text
  rw [startByCount_eq_startOver text apart]
  rfl

/-- The first of some offsets at or after `pos` is the one behind those before it. -/
theorem find?_le_eq_getElem? (found : List Nat) (pos : Nat) :
    found.find? (pos ≤ ·) = found[countBefore found pos]? := by
  induction found with
  | nil => rfl
  | cons d rest ih =>
    by_cases early : d < pos
    · rw [countBefore_cons rest early, List.getElem?_cons_succ, ← ih]
      exact List.find?_cons_of_neg (by simpa using early)
    · have late : pos ≤ d := Nat.le_of_not_lt early
      simp [countBefore, early, late]

theorem stopWithin_eq_widenStop {text : Text} {turns : Nat}
    (enough : (LongString.all text).length < turns) (pos : Nat) :
    stopWithin text turns pos = some (widenStop text pos) := by
  have settles (p : Nat) : settleWithin text turns p = some (settle text p) := by
    rw [settle_eq_foldl]
    exact settleWithin_eq_foldl (ahead_all text p) enough
  have found := find?_le_eq_getElem? (delimiters text) pos
  by_cases following : countBefore (delimiters text) pos < (delimiters text).length
  · rw [List.getElem?_eq_getElem following] at found
    simp [stopWithin, widenStop, found, following, settles]
  · rw [List.getElem?_eq_none (Nat.le_of_not_lt following)] at found
    simp [stopWithin, widenStop, found, following, settles]

/-- Counting delimiters widens a region as looking at the long strings does. -/
theorem extendWithin_eq_extend {text : Text} {turns : Nat}
    (enough : (LongString.all text).length < turns) (start stop : Int) :
    extendWithin text turns start stop = some (extend text start stop).1 := by
  rw [extendWithin, stopWithin_eq_widenStop enough, ← widenStart_eq_startByCount]
  rfl

end Region

end TurtleEdit
