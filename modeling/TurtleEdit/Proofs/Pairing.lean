import TurtleEdit.Proofs.Comments

/-!
Strings of one line, and where their quotes pair up.

The rule for strings pairs the quotes of a line from left to right. From the start of a line, or
from behind a long string, an even number of quotes makes whole strings, so the next quote should
begin one. It does if the scan comes there afresh. But the scan does not know of long strings, and
it may come out of one with a string begun: the last of the three quotes that close the long string
is then taken for the first of a string. From there on every string of the line is taken for what
stands between two strings, and the other way round.
-/

namespace TurtleEdit

/-! ## Quotes in pairs -/

/-- A character that neither escapes another one nor ends the line. -/
def isPlain (c : Char) : Bool := c != '\\' && c != '\n'

theorem plain_of_not_mem {part : Text} (noEscape : '\\' ∉ part) (oneLine : '\n' ∉ part) :
    ∀ c ∈ part, isPlain c = true := by
  intro c member
  have escape : c ≠ '\\' := fun same => noEscape (same ▸ member)
  have feed : c ≠ '\n' := fun same => oneLine (same ▸ member)
  simp [isPlain, escape, feed]

theorem isStringBody_of_plain {body : Text} (unquoted : '"' ∉ body)
    (plain : ∀ c ∈ body, isPlain c = true) : isStringBody body = true := by
  induction body with
  | nil => rfl
  | cons c rest ih =>
    obtain ⟨first, others⟩ := List.forall_mem_cons.mp plain
    simp only [isPlain, Bool.and_eq_true, bne_iff_ne] at first
    have quote := (List.ne_of_not_mem_cons unquoted).symm
    rw [isStringBody.eq_3 _ _ (fun _ _ same => absurd same first.1) fun same => absurd same first.1,
      ih (List.not_mem_of_not_mem_cons unquoted) others]
    simp [quote, first.2]

namespace Pattern

/-- A plain part of a line with an even number of quotes is scanned for itself. -/
theorem exists_matchesFrom_string_of_even {part : Text} (plain : ∀ c ∈ part, isPlain c = true)
    (even : part.count '"' % 2 = 0) (pos : Nat) (before : Option Char) (rest : Text) :
    ∃ found, string.matchesFrom pos 0 before (part ++ rest) =
        found ++ string.matchesFrom (pos + part.length) 0 none rest ∧
      ∀ m ∈ found, m.stop ≤ pos + part.length := by
  -- by induction on the length: the first two quotes make a string
  induction size : part.length using Nat.strong_induction_on generalizing part pos before with
  | _ total ih =>
    by_cases quoted : '"' ∈ part
    · obtain ⟨gap, behind, rfl, unquoted⟩ := List.eq_append_cons_of_mem quoted
      have second : '"' ∈ behind := by
        by_contra none
        rw [List.count_append, List.count_cons_self, List.count_eq_zero_of_not_mem unquoted,
          List.count_eq_zero_of_not_mem none] at even
        cases even
      obtain ⟨body, tail, rfl, bodyUnquoted⟩ := List.eq_append_cons_of_mem second
      simp only [List.forall_mem_append, List.forall_mem_cons] at plain
      obtain ⟨-, -, bodyPlain, -, tailPlain⟩ := plain
      simp only [List.count_append, List.count_cons_self, List.count_eq_zero_of_not_mem unquoted,
        List.count_eq_zero_of_not_mem bodyUnquoted] at even
      simp only [List.length_append, List.length_cons] at size
      obtain ⟨found, split, early⟩ := ih tail.length (by omega) tailPlain (by omega)
        (pos + gap.length + (body.length + 2)) none rfl
      have isBody := isStringBody_of_plain bodyUnquoted bodyPlain
      have first := matchesFrom_string_quoted isBody (pos + gap.length) none (tail ++ rest)
      have text : gap ++ '"' :: (body ++ '"' :: tail) ++ rest =
          gap ++ ('"' :: (body ++ ['"']) ++ (tail ++ rest)) := by simp
      have length : ('"' :: (body ++ ['"'])).length = body.length + 2 := by simp
      have stop : pos + gap.length + (body.length + 2) + tail.length = pos + total := by omega
      rw [length, split, stop] at first
      refine ⟨_ :: found, by rw [text, matchesFrom_string_append unquoted, first]; rfl, ?_⟩
      refine List.forall_mem_cons.mpr ⟨?_, fun m member => stop ▸ early m member⟩
      simp only [Hit.place, Hit.whole]
      omega
    · exact ⟨[], by rw [matchesFrom_string_append quoted, size, List.nil_append],
        List.forall_mem_nil _⟩

end Pattern

/-! ## Where strings and long strings end -/

/-- The rest of a string stays on its line, and a quote in it, but for the last one, is escaped. -/
theorem stringBody_spec {text : Text} {n : Nat} (found : stringBody text = some n) {j : Nat}
    (inside : j < n) :
    text[j]? ≠ some '\n' ∧
      (j + 1 < n → text[j]? = some '"' → ∃ k, j = k + 1 ∧ text[k]? = some '\\') := by
  induction text using stringBody.induct generalizing n j with
  | case1 => cases found
  | case2 rest =>
    cases found
    obtain rfl : j = 0 := by omega
    exact ⟨by simp, fun more => absurd more (Nat.lt_irrefl _)⟩
  | case3 rest =>
    rw [stringBody, if_pos rfl] at found
    cases found
  | case4 c rest other ih =>
    rw [stringBody, if_neg other] at found
    obtain ⟨k, inRest, rfl⟩ := Option.map_eq_some_iff.mp found
    rcases j with _ | _ | j
    · exact ⟨by simp, fun _ quote => by simp at quote⟩
    · exact ⟨by simpa using other, fun _ _ => ⟨0, rfl, rfl⟩⟩
    · obtain ⟨feed, escaped⟩ := ih inRest (show j < k by omega)
      refine ⟨feed, fun more quote => ?_⟩
      obtain ⟨l, rfl, escape⟩ := escaped (by omega) quote
      exact ⟨l + 2, rfl, escape⟩
  | case5 => cases found
  | case6 rest noQuote noEscape noLast =>
    rw [stringBody.eq_5 _ _ noQuote noEscape noLast, if_pos rfl] at found
    cases found
  | case7 c rest noQuote noEscape noLast other ih =>
    rw [stringBody.eq_5 _ _ noQuote noEscape noLast, if_neg other] at found
    obtain ⟨k, inRest, rfl⟩ := Option.map_eq_some_iff.mp found
    cases j with
    | zero => exact ⟨by simpa using other, fun _ quote => absurd (by simpa using quote) noQuote⟩
    | succ j =>
      obtain ⟨feed, escaped⟩ := ih inRest (show j < k by omega)
      refine ⟨feed, fun more quote => ?_⟩
      obtain ⟨l, rfl, escape⟩ := escaped (by omega) quote
      exact ⟨l + 1, rfl, escape⟩

/-- The rest of a long string that ends before the text does ends with three quotes. -/
theorem longStringBody_spec {text : Text} {n : Nat} (found : longStringBody text = some n)
    (inside : n < text.length) :
    ∃ body rest, text = body ++ '"' :: '"' :: '"' :: rest ∧ n = body.length + 3 := by
  induction text using longStringBody.induct generalizing n with
  | case1 => exact absurd inside (Nat.not_lt_zero _)
  | case2 rest =>
    cases found
    exact ⟨[], rest, rfl, rfl⟩
  | case3 rest =>
    rw [longStringBody, if_pos rfl] at found
    cases found
  | case4 c rest other ih =>
    rw [longStringBody, if_neg other] at found
    obtain ⟨k, inRest, rfl⟩ := Option.map_eq_some_iff.mp found
    obtain ⟨body, after, rfl, rfl⟩ := ih inRest (by simpa using inside)
    exact ⟨'\\' :: c :: body, after, rfl, rfl⟩
  | case5 => cases found
  | case6 c rest noTriple noEscape noLast ih =>
    rw [longStringBody.eq_5 _ _ noTriple noEscape noLast] at found
    obtain ⟨k, inRest, rfl⟩ := Option.map_eq_some_iff.mp found
    obtain ⟨body, after, rfl, rfl⟩ := ih inRest (by simpa using inside)
    exact ⟨c :: body, after, rfl, rfl⟩

namespace Pattern

variable {text : Text} {m : Match}

theorem body_of_mem_strings (member : m ∈ string.matchesIn none text) :
    text[m.start]? = some '"' ∧
      ∃ n, stringBody (text.drop (m.start + 1)) = some n ∧ m.stop = m.start + 1 + n := by
  obtain ⟨p, hit, here, rfl, -⟩ := hit_of_mem_matchesFrom member
  simp only [Pattern.hit] at here
  split at here
  · next rest starts =>
    obtain ⟨n, inRest, rfl⟩ := Option.map_eq_some_iff.mp here
    have behind : text.drop (p + 1) = rest := by rw [← List.drop_drop, starts, List.drop_one]; rfl
    simp only [Hit.place, Hit.whole, Nat.zero_add, behind, inRest]
    refine ⟨?_, n, rfl, by omega⟩
    rw [← Nat.add_zero p, ← List.getElem?_drop, starts]
    rfl
  · cases here

/-- No string reaches over the start of a line. -/
theorem not_isLineStart_of_crossed (member : m ∈ string.matchesIn none text) {b : Nat}
    (low : m.start < b) (high : b < m.stop) : ¬ IsLineStart text b := by
  obtain ⟨quote, n, body, stop⟩ := body_of_mem_strings member
  rintro (rfl | ⟨feedAt, rfl, feed⟩)
  · exact Nat.not_lt_zero _ low
  · rcases Nat.lt_or_eq_of_le (Nat.le_of_lt_succ low) with inside | first
    · refine (stringBody_spec body (show feedAt - (m.start + 1) < n by omega)).1 ?_
      rw [List.getElem?_drop, Nat.add_sub_cancel' inside, feed]
    · rw [← first, quote] at feed
      cases feed

/-- A string that reaches over the end of a long string begins with its last quote, as that one is
not escaped. -/
theorem start_of_crossed (member : m ∈ string.matchesIn none text) {b : Nat}
    (low : m.start < b + 2) (high : b + 2 < m.stop) (secondLast : text[b]? = some '"')
    (last : text[b + 1]? = some '"') : m.start = b + 1 := by
  obtain ⟨-, n, body, stop⟩ := body_of_mem_strings member
  by_contra inside
  have here : (text.drop (m.start + 1))[b - m.start]? = some '"' := by
    rw [List.getElem?_drop, show m.start + 1 + (b - m.start) = b + 1 by omega, last]
  obtain ⟨k, isNext, escape⟩ := (stringBody_spec body (by omega)).2 (by omega) here
  rw [List.getElem?_drop, show m.start + 1 + k = b by omega, secondLast] at escape
  cases escape

/-- A long string that ends before the text does ends with quotes. -/
theorem quotes_of_mem_longStrings (member : m ∈ longString.matchesIn none text)
    (inside : m.stop < text.length) :
    ∃ b, m.stop = b + 2 ∧ text[b]? = some '"' ∧ text[b + 1]? = some '"' := by
  obtain ⟨p, hit, here, rfl, -⟩ := hit_of_mem_matchesFrom member
  obtain ⟨rest, n, starts, found, rfl⟩ := hit_longString_iff.mp here
  have size := congrArg List.length starts
  simp only [List.length_drop, List.length_cons] at size
  simp only [Hit.place, Hit.whole, Nat.zero_add] at inside ⊢
  obtain ⟨body, after, rfl, rfl⟩ := longStringBody_spec found (by omega)
  have triple : TripleAt text (p + (body.length + 3)) := by
    rw [TripleAt, ← List.drop_drop, starts, List.drop_succ_cons, List.drop_succ_cons,
      List.drop_succ_cons, List.drop_left]
    exact List.prefix_append _ _
  exact ⟨p + (body.length + 3) + 1, by omega, getElem?_of_tripleAt triple (show 1 < 3 by decide),
    getElem?_of_tripleAt triple (show 2 < 3 by decide)⟩

end Pattern

/-! ## Where the quotes of a line pair up -/

/-- Where quotes begin to pair up for an offset: the start of its line, or the end of the last long
string that ends at it or before it, if that is later. -/
def pairingStart (text : Text) (i : Nat) : Nat :=
  max (lineStart text i)
    (((Pattern.longString.matchesIn none text).filter (·.stop ≤ i)).getLast?.elim 0 Match.stop)

theorem pairingStart_spec {text : Text} {i : Nat} (inside : i < text.length) :
    lineStart text i ≤ pairingStart text i ∧ pairingStart text i ≤ i ∧
      (IsLineStart text (pairingStart text i) ∨
        ∃ b, pairingStart text i = b + 2 ∧ text[b]? = some '"' ∧ text[b + 1]? = some '"') := by
  have onLine := lineStart_le text i
  have starts := isLineStart_lineStart (Nat.le_of_lt inside)
  unfold pairingStart
  cases last : ((Pattern.longString.matchesIn none text).filter (·.stop ≤ i)).getLast? with
  | none =>
    rw [Option.elim_none, Nat.max_zero]
    exact ⟨Nat.le_refl _, onLine, Or.inl starts⟩
  | some long =>
    obtain ⟨member, ends⟩ := List.mem_filter.mp (List.mem_of_getLast? last)
    have ends : long.stop ≤ i := by simpa using ends
    rw [Option.elim_some]
    refine ⟨Nat.le_max_left _ _, Nat.max_le.mpr ⟨onLine, ends⟩, ?_⟩
    rcases Nat.le_total long.stop (lineStart text i) with before | behind
    · rw [Nat.max_eq_left before]
      exact Or.inl starts
    · rw [Nat.max_eq_right behind]
      exact Or.inr (Pattern.quotes_of_mem_longStrings member (Nat.lt_of_le_of_lt ends inside))

/-- A string reaches over an offset. -/
def StringCrosses (text : Text) (b : Nat) : Prop :=
  ∃ m ∈ Pattern.string.matchesIn none text, m.start < b ∧ b < m.stop

instance (text : Text) (b : Nat) : Decidable (StringCrosses text b) :=
  inferInstanceAs (Decidable (∃ m ∈ Pattern.string.matchesIn none text, _))

theorem Pattern.consumes_string : Pattern.string.Consumes := by
  intro before text hit found
  simp only [Pattern.hit] at found
  split at found
  · obtain ⟨n, -, rfl⟩ := Option.map_eq_some_iff.mp found
    exact Nat.succ_pos n
  · cases found

/-- No string reaches over the place where another one begins. -/
theorem not_stringCrosses_start {text : Text} {m : Match}
    (member : m ∈ Pattern.string.matchesIn none text) : ¬ StringCrosses text m.start := by
  rintro ⟨other, also, low, high⟩
  have scan := Pattern.isScan_matchesIn Pattern.consumes_string none text
  have filled := scan.start_lt_stop Pattern.consumes_string member
  rcases scan.apart also member with rfl | before | behind
  · exact Nat.lt_irrefl _ low
  · omega
  · omega

/-- Behind a plain part of a line that no string reaches into, and that has an even number of
quotes, the scan begins afresh. -/
theorem Pattern.exists_matchesIn_string_behind {text : Text} {c e : Nat} (ordered : c ≤ e)
    (inside : e ≤ text.length) (uncrossed : ¬ StringCrosses text c)
    (plain : ∀ x ∈ (text.take e).drop c, isPlain x = true)
    (even : ((text.take e).drop c).count '"' % 2 = 0) :
    ∃ earlier, string.matchesIn none text =
        earlier ++ string.matchesFrom e 0 none (text.drop e) ∧ ∀ m ∈ earlier, m.stop ≤ e := by
  have size : (text.take c).length = c := List.length_take_of_le (Nat.le_trans ordered inside)
  obtain ⟨earlier, k, split, -, -, early, reach⟩ := string.exists_matchesFrom_overhang 0 none
    (Nat.zero_le (text.take c ++ text.drop c).length)
  rw [List.take_append_drop, size, Nat.zero_add] at split
  simp only [size, Nat.zero_add, Nat.zero_sub] at early reach
  -- what begins before the part ends before it
  have nothing : k = 0 := by
    rcases reach with nothing | ⟨m, member, stops⟩
    · exact nothing
    · by_contra present
      have inText : m ∈ string.matchesIn none text := by
        rw [matchesIn, split]
        exact List.mem_append_left _ member
      exact uncrossed ⟨m, inText, (early m member).1, by omega⟩
  subst nothing
  have parts : text.drop c = (text.take e).drop c ++ text.drop e := by
    rw [← List.drop_append_of_le_length (by rw [List.length_take]; omega), List.take_append_drop]
  obtain ⟨found, own, inPart⟩ := exists_matchesFrom_string_of_even plain even c
    (charBefore none (text.take c) c) (text.drop e)
  rw [← parts, List.length_drop, List.length_take_of_le inside, Nat.add_sub_cancel' ordered] at own
  rw [List.length_drop, List.length_take_of_le inside, Nat.add_sub_cancel' ordered] at inPart
  refine ⟨earlier ++ found, by rw [matchesIn, split, own, List.append_assoc], fun m member => ?_⟩
  rcases List.mem_append.mp member with before | within
  · have stops := (early m before).2
    omega
  · exact inPart m within

/-! ## Strings of one line -/

/-- What stands between the place where quotes begin to pair up and an offset. -/
def pairingGap (text : Text) (i : Nat) : Text := (text.take i).drop (pairingStart text i)

theorem plain_of_pairingGap {text : Text} {i : Nat} (inside : i < text.length)
    (noEscape : '\\' ∉ pairingGap text i) : ∀ c ∈ pairingGap text i, isPlain c = true := by
  refine plain_of_not_mem noEscape fun member => ?_
  obtain ⟨low, -, -⟩ := pairingStart_spec inside
  obtain ⟨k, here⟩ := List.mem_iff_getElem?.mp member
  rw [pairingGap, List.getElem?_drop, List.getElem?_take] at here
  split at here
  · next before =>
    exact ne_feed_of_lineStart_le (Nat.le_of_lt inside) (Nat.le_trans low (Nat.le_add_right _ k))
      before here
  · cases here

section Quoted

variable {text body rest : Text} {i : Nat} (quoted : text.drop i = '"' :: (body ++ '"' :: rest))
  (unquoted : '"' ∉ body) (gapPlain : ∀ c ∈ pairingGap text i, isPlain c = true)
  (even : (pairingGap text i).count '"' % 2 = 0)

include quoted

theorem lt_length_of_quoted : i < text.length := by
  have size := congrArg List.length quoted
  rw [List.length_drop, List.length_cons] at size
  omega

include gapPlain even in
/-- Where no string reaches over the place where quotes begin to pair up, the string is found. -/
theorem mem_strings_of_uncrossed (isBody : isStringBody body = true)
    (uncrossed : ¬ StringCrosses text (pairingStart text i)) :
    Hit.place (.whole (body.length + 2)) i ∈ Pattern.string.matchesIn none text := by
  have inside := lt_length_of_quoted quoted
  obtain ⟨-, high, -⟩ := pairingStart_spec inside
  obtain ⟨earlier, split, -⟩ := Pattern.exists_matchesIn_string_behind high (Nat.le_of_lt inside)
    uncrossed gapPlain even
  have found := Pattern.matchesFrom_string_quoted isBody i none rest
  have text : '"' :: (body ++ ['"']) ++ rest = '"' :: (body ++ '"' :: rest) := by simp
  rw [text, ← quoted] at found
  rw [split, found, List.length_cons, List.length_append]
  exact List.mem_append_right _ List.mem_cons_self

include unquoted in
theorem getElem?_ne_quote_of_body {k : Nat} (low : i < k) (high : k < i + (body.length + 1)) :
    text[k]? ≠ some '"' := by
  intro quote
  obtain ⟨j, rfl⟩ : ∃ j, k = i + (j + 1) := ⟨k - i - 1, by omega⟩
  rw [← List.getElem?_drop, quoted, List.getElem?_cons_succ,
    List.getElem?_append_left (by omega)] at quote
  exact unquoted (List.mem_of_getElem? quote)

include unquoted in
/-- A long string that does not hold the first quote does not hold the body. -/
theorem not_holds_body_of_longString {m : Match}
    (member : m ∈ Pattern.longString.matchesIn none text) (outside : ¬ m.Holds i) {k : Nat}
    (low : i < k) (high : k < i + (body.length + 1)) : ¬ m.Holds k := by
  rintro ⟨starts, stops⟩
  rcases Nat.lt_or_ge i m.start with behind | before
  · obtain ⟨p, hit, here, rfl, -⟩ := Pattern.hit_of_mem_matchesFrom member
    have triple := tripleAt_of_hit_longString here
    simp only [Hit.place, Nat.zero_add] at starts behind
    exact getElem?_ne_quote_of_body quoted unquoted behind (by omega)
      (getElem?_of_tripleAt triple (show 0 < 3 by decide))
  · exact outside ⟨before, by omega⟩

include gapPlain even in
/-- Where a string reaches over that place, it begins with the last quote of a long string, and the
scan begins afresh behind the first quote of the string in question. -/
theorem exists_matchesIn_behind_quote (crossed : StringCrosses text (pairingStart text i)) :
    ∃ earlier, Pattern.string.matchesIn none text =
        earlier ++ Pattern.string.matchesFrom (i + 1) 0 none (text.drop (i + 1)) ∧
      ∀ m ∈ earlier, m.stop ≤ i + 1 := by
  have inside := lt_length_of_quoted quoted
  obtain ⟨m, member, before, behind⟩ := crossed
  obtain ⟨-, ordered, starts | ⟨b, isStart, secondLast, last⟩⟩ := pairingStart_spec inside
  · exact absurd starts (Pattern.not_isLineStart_of_crossed member before behind)
  · rw [isStart] at before behind ordered
    have start := Pattern.start_of_crossed member before behind secondLast last
    -- the gap and a quote on either side of it: again an even number
    have part : (text.take (i + 1)).drop (b + 1) = '"' :: (pairingGap text i ++ ['"']) := by
      have first : text[i]? = some '"' := by
        rw [← Nat.add_zero i, ← List.getElem?_drop, quoted]
        rfl
      have lastBefore : (text.take i)[b + 1]? = some '"' := by
        rw [List.getElem?_take_of_lt (by omega), last]
      rw [List.take_add_one, first, Option.toList_some, List.drop_append_of_le_length
        (by rw [List.length_take]; omega), drop_eq_cons_of_getElem? lastBefore, pairingGap, isStart]
      rfl
    have partPlain : ∀ c ∈ (text.take (i + 1)).drop (b + 1), isPlain c = true := by
      rw [part, List.forall_mem_cons, List.forall_mem_append, List.forall_mem_singleton]
      exact ⟨rfl, gapPlain, rfl⟩
    have partEven : ((text.take (i + 1)).drop (b + 1)).count '"' % 2 = 0 := by
      rw [part, List.count_cons_self, List.count_append, List.count_singleton_self]
      omega
    exact Pattern.exists_matchesIn_string_behind (by omega) inside
      (start ▸ not_stringCrosses_start member) partPlain partEven

include unquoted gapPlain even in
/-- So no string holds the body: one string ends before it, and the next one begins behind it. -/
theorem not_holds_body_of_crossed (crossed : StringCrosses text (pairingStart text i)) {m : Match}
    (member : m ∈ Pattern.string.matchesIn none text) {k : Nat} (low : i < k)
    (high : k < i + (body.length + 1)) : ¬ m.Holds k := by
  obtain ⟨earlier, split, early⟩ := exists_matchesIn_behind_quote quoted gapPlain even crossed
  have onward : text.drop (i + 1) = body ++ '"' :: rest := by
    rw [← List.drop_drop, quoted, List.drop_one, List.tail_cons]
  rw [onward, Pattern.matchesFrom_string_append unquoted] at split
  rw [split] at member
  rintro ⟨starts, stops⟩
  rcases List.mem_append.mp member with before | later
  · have stop := early m before
    omega
  · have start := (Pattern.within_of_mem_matchesFrom later).1
    omega

end Quoted

/-- A string in quotes on one line, without escapes, that does not begin in a long string, and
before which an even number of quotes stands on the line or behind the last long string. It is
highlighted as a whole if no string of the scan reaches over the place from which these quotes are
counted. If one does, which can only happen behind a long string, nothing between its quotes is
highlighted as a string. -/
theorem string_shown_of_uncrossed {text body : Text} {i : Nat}
    (quoted : '"' :: (body ++ ['"']) <+: text.drop i) (unquoted : '"' ∉ body)
    (bodyNoEscape : '\\' ∉ body) (oneLine : '\n' ∉ body)
    (outside : ∀ m ∈ Pattern.longString.matchesIn none text, ¬ m.Holds i)
    (noEscape : '\\' ∉ pairingGap text i) (even : (pairingGap text i).count '"' % 2 = 0) :
    ∃ spans, classify standardRules text 0 none = .ok spans ∧
      (¬ StringCrosses text (pairingStart text i) →
        ∀ k, i ≤ k → k < i + (body.length + 2) → Shows spans k .string) ∧
      (StringCrosses text (pairingStart text i) →
        ∀ k, i < k → k < i + (body.length + 1) → ¬ Shows spans k .string) := by
  obtain ⟨rest, split⟩ := quoted
  have quoted : text.drop i = '"' :: (body ++ '"' :: rest) := by rw [← split]; simp
  have gapPlain := plain_of_pairingGap (lt_length_of_quoted quoted) noEscape
  have isBody := isStringBody_of_plain unquoted (plain_of_not_mem bodyNoEscape oneLine)
  obtain ⟨spans, done, strings, -⟩ := exists_classify_shows text
  refine ⟨spans, done, fun uncrossed k low high => ?_, fun crossed k low high shown => ?_⟩
  · have member := mem_strings_of_uncrossed quoted gapPlain even isBody uncrossed
    refine (strings k).mpr (Or.inr ⟨_, member, ⟨low, high⟩, ?_⟩)
    rintro ⟨long, inText, holds⟩
    exact outside long inText holds
  · rcases (strings k).mp shown with ⟨long, inText, holds⟩ | ⟨m, member, holds, -⟩
    · exact not_holds_body_of_longString quoted unquoted inText (outside long inText) low high holds
    · exact not_holds_body_of_crossed quoted unquoted gapPlain even crossed member low high holds

/-- Behind a long string of one line, whose quotes pair up. -/
theorem string_shown_of_uncrossed_closed :
    let text := "\"\"\"a\"\"\" \"b\"".toList
    pairingStart text 8 = 7 ∧ ¬ StringCrosses text 7 ∧
      ∃ spans, classify standardRules text 0 none = .ok spans ∧
        ∀ k, 8 ≤ k → k < 11 → Shows spans k .string := by
  intro text
  have start : pairingStart text 8 = 7 := by decide +kernel
  have uncrossed : ¬ StringCrosses text 7 := by decide +kernel
  obtain ⟨spans, done, shown, -⟩ := @string_shown_of_uncrossed text ['b'] 8 ⟨[], rfl⟩ (by decide)
    (by decide) (by decide) (by decide +kernel) (by decide +kernel) (by decide +kernel)
  rw [start] at shown
  exact ⟨start, uncrossed, spans, done, shown uncrossed⟩

/-- Behind a long string over two lines the quotes pair up differently, and a string is not
shown. -/
theorem string_behind_longString_not_shown :
    let text := "\"\"\"a\nb\"\"\" \"c\"".toList
    '"' :: (['c'] ++ ['"']) <+: text.drop 10 ∧
      (∀ m ∈ Pattern.longString.matchesIn none text, ¬ m.Holds 10) ∧
      pairingGap text 10 = [' '] ∧
      ∃ spans, (classify standardRules text 0 none).toOption = some spans ∧
        ¬ ∀ k, 10 ≤ k → k < 13 → Shows spans k .string := by
  intro text
  refine ⟨⟨[], rfl⟩, by decide +kernel, by decide +kernel, [⟨0, 9, .string⟩], by decide +kernel,
    fun all => ?_⟩
  exact absurd (all 10 (by decide) (by decide)) (by decide)

end TurtleEdit
