import TurtleEdit.Proofs.Delimiters
import TurtleEdit.Proofs.Scanning

/-!
Long strings as the pattern finds them, and as the delimiters pair them.

The pattern reads escapes and the pairing does not, so the two may differ; they agree on every text
without a backslash. Where they agree, the pattern finds in a part of the text that cuts no long
string just the long strings of that part: its matches look at nothing after their own end, and
every triple quote of the part belongs to a long string that lies in it.
-/

namespace TurtleEdit

/-! ## The pattern -/

/-- A long string is matched at its opening delimiter, as far as its body goes. -/
theorem Pattern.hit_longString_iff {before : Option Char} {text : Text} {hit : Hit} :
    Pattern.longString.hit before text = some hit ↔
      ∃ rest n, text = '"' :: '"' :: '"' :: rest ∧ longStringBody rest = some n ∧
        hit = .whole (n + 3) := by
  simp only [Pattern.hit]
  constructor
  · intro found
    split at found
    case isFalse => cases found
    case isTrue starts =>
      obtain ⟨rest, rfl⟩ := startsWith_iff.mp starts
      obtain ⟨n, body, rfl⟩ := Option.map_eq_some_iff.mp found
      exact ⟨rest, n, rfl, body, rfl⟩
  · rintro ⟨rest, n, rfl, body, rfl⟩
    have starts : startsWith "\"\"\"" ('"' :: '"' :: '"' :: rest) = true := rfl
    rw [if_pos starts]
    exact Option.map_eq_some_iff.mpr ⟨n, body, rfl⟩

theorem Pattern.consumes_longString : Pattern.longString.Consumes := by
  intro before text hit found
  obtain ⟨rest, n, -, -, rfl⟩ := hit_longString_iff.mp found
  exact Nat.succ_pos _

/-- The pattern matches only where three quotes stand. -/
theorem tripleAt_of_hit_longString {before : Option Char} {text : Text} {pos : Nat} {hit : Hit}
    (found : Pattern.longString.hit before (text.drop pos) = some hit) : TripleAt text pos := by
  obtain ⟨rest, n, starts, -, -⟩ := Pattern.hit_longString_iff.mp found
  exact ⟨rest, starts.symm⟩

/-- A body that ends inside a text does not depend on what follows the text. -/
theorem longStringBody_of_append {text rest : Text} {n : Nat}
    (body : longStringBody (text ++ rest) = some n) (short : n ≤ text.length) :
    longStringBody text = some n := by
  induction text using longStringBody.induct generalizing n with
  | case1 => rw [Nat.le_zero.mp short, longStringBody]
  | case2 after => exact body
  | case3 after => exact body
  | case4 c after other ih =>
    rw [List.cons_append, List.cons_append, longStringBody, if_neg other] at body
    obtain ⟨k, tail, rfl⟩ := Option.map_eq_some_iff.mp body
    have inside : k ≤ after.length := Nat.le_of_succ_le_succ (Nat.le_of_succ_le_succ short)
    rw [longStringBody, if_neg other, ih tail inside]
    rfl
  | case5 =>
    cases rest with
    | nil => exact body
    | cons c after =>
      rw [List.cons_append, List.nil_append, longStringBody] at body
      split at body
      · cases body
      · obtain ⟨k, -, rfl⟩ := Option.map_eq_some_iff.mp body
        simp at short
  | case6 c after noTriple noEscape noLast ih =>
    have noBackslash : c ≠ '\\' := by
      rintro rfl
      cases after with
      | nil => exact noLast rfl rfl
      | cons d tail => exact noEscape d tail rfl rfl
    by_cases triple : ∃ tail, c = '"' ∧ after ++ rest = '"' :: '"' :: tail
    · -- the closing delimiter would reach into the rest
      obtain ⟨tail, rfl, joined⟩ := triple
      rw [List.cons_append, joined, longStringBody] at body
      cases body
      rcases after with _ | ⟨d, _ | ⟨e, after⟩⟩
      · simp at short
      · simp at short
      · simp only [List.cons_append, List.cons.injEq] at joined
        exact (noTriple after rfl (by rw [joined.1, joined.2.1])).elim
    · rw [List.cons_append, longStringBody.eq_5 _ _ (fun tail quote joined =>
        triple ⟨tail, quote, joined⟩) (fun _ _ same => absurd same noBackslash)
        (fun same => absurd same noBackslash)] at body
      obtain ⟨k, tail, rfl⟩ := Option.map_eq_some_iff.mp body
      rw [longStringBody.eq_5 _ _ noTriple noEscape noLast, ih tail (Nat.le_of_succ_le_succ short)]
      rfl

/-- A long string that ends inside a text does not depend on what follows the text. -/
theorem Pattern.hit_longString_of_append {before before' : Option Char} {text rest : Text}
    {hit : Hit} (found : Pattern.longString.hit before (text ++ rest) = some hit)
    (short : hit.length ≤ text.length) : Pattern.longString.hit before' text = some hit := by
  obtain ⟨after, n, starts, body, rfl⟩ := hit_longString_iff.mp found
  have size : n + 3 ≤ text.length := short
  rcases text with _ | ⟨a, _ | ⟨b, _ | ⟨c, text⟩⟩⟩
  · simp at size
  · simp at size
  · simp at size
  · simp only [List.cons_append, List.cons.injEq] at starts
    obtain ⟨rfl, rfl, rfl, rfl⟩ := starts
    have inside : n ≤ text.length := by simpa using size
    exact hit_longString_iff.mpr ⟨text, n, rfl, longStringBody_of_append body inside, rfl⟩

/-! ## Agreement -/

/-- A long string as a match of the pattern. -/
def LongString.toMatch (size : Nat) (long : LongString) : Match :=
  ⟨long.opener, long.stop size, none⟩

/-- The pattern finds the long strings of the text, and nothing else. -/
def LongStringsAgree (text : Text) : Prop :=
  Pattern.longString.matchesIn none text =
    (LongString.all text).map (LongString.toMatch text.length)

/-- Without backslashes a body runs to the next delimiter, or to the end. -/
theorem longStringBody_eq_of_no_backslash (offset : Nat) {text : Text} (plain : '\\' ∉ text) :
    longStringBody text = some (match (delimitersFrom offset text).head? with
      | some d => d + 3 - offset
      | none => text.length) := by
  induction offset, text using delimitersFrom.induct with
  | case1 offset rest =>
    rw [longStringBody, delimitersFrom, List.head?_cons]
    simp
  | case2 offset c rest noTriple ih =>
    have other : c ≠ '\\' := fun same => plain (same ▸ List.mem_cons_self)
    rw [longStringBody.eq_5 _ _ noTriple (fun _ _ same => absurd same other)
      (fun same => absurd same other), ih (List.not_mem_of_not_mem_cons plain),
      delimitersFrom.eq_2 _ _ _ noTriple, Option.map_some]
    cases found : (delimitersFrom (offset + 1) rest).head? with
    | none => rfl
    | some d =>
      have bounds := delimitersFrom_bounds (List.mem_of_head? found)
      simp only [Option.some.injEq]
      omega
  | case3 offset => rfl

/-- Without backslashes the pattern matches each long string where it opens. -/
theorem hit_longString_of_no_backslash {text : Text} (plain : '\\' ∉ text) {long : LongString}
    (member : long ∈ LongString.all text) (before : Option Char) :
    Pattern.longString.hit before (text.drop long.opener) =
      some (.whole (long.stop text.length - long.opener)) := by
  obtain ⟨starts, closes⟩ := LongString.opens_of_mem_all member
  have bounds := LongString.bounds_of_mem_all member
  have size : (text.drop (long.opener + 3)).length = text.length - (long.opener + 3) :=
    List.length_drop
  have plainRest : '\\' ∉ text.drop (long.opener + 3) := fun inRest =>
    plain (List.mem_of_mem_drop inRest)
  refine Pattern.hit_longString_iff.mpr ⟨_, _, starts,
    longStringBody_eq_of_no_backslash (long.opener + 3) plainRest, congrArg Hit.whole ?_⟩
  rw [← closes]
  cases closed : long.closer with
  | none =>
    have stops : long.stop text.length = text.length := by rw [LongString.stop, closed]
    dsimp only
    omega
  | some closer =>
    have stops : long.stop text.length = closer + 3 := by rw [LongString.stop, closed]
    dsimp only
    rw [stops, Nat.add_sub_add_right]
    omega

/-- If the pattern matches each long string where it opens, it finds them all and nothing else. -/
theorem longStringsAgree_of_hits {text : Text}
    (hits : ∀ long ∈ LongString.all text, ∀ before,
      Pattern.longString.hit before (text.drop long.opener) =
        some (.whole (long.stop text.length - long.opener))) : LongStringsAgree text := by
  refine (Pattern.isScan_matchesIn Pattern.consumes_longString none text).unique
    Pattern.consumes_longString ⟨fun m member => ?_, ?_, fun pos hit found => ?_⟩
  · obtain ⟨long, inAll, rfl⟩ := List.mem_map.mp member
    have bounds := LongString.bounds_of_mem_all inAll
    refine ⟨_, hits long inAll _, ?_⟩
    simp only [LongString.toMatch, Hit.place, Hit.whole, Option.map_none, Match.mk.injEq, true_and,
      and_true]
    omega
  · exact List.pairwise_map.mpr (LongString.all_pairwise text)
  · obtain ⟨long, inAll, low, high⟩ :=
      LongString.exists_of_tripleAt (tripleAt_of_hit_longString found)
    exact ⟨_, List.mem_map.mpr ⟨long, inAll, rfl⟩, low, high⟩

/-- The pattern and the pairing agree on every text without a backslash. -/
theorem longStringsAgree_of_no_backslash {text : Text} (plain : '\\' ∉ text) :
    LongStringsAgree text :=
  longStringsAgree_of_hits fun _ member before => hit_longString_of_no_backslash plain member before

/-! ## Parts that cut no long string -/

/-- A whole match: it is not turned around, and no group took a part of it. -/
def Match.IsWhole (found : Match) : Prop := found.start ≤ found.stop ∧ found.group = none

/-- A whole match that starts at an offset or behind it, seen from there. -/
theorem Match.IsWhole.exists_shift {found : Match} (whole : found.IsWhole) {cut : Nat}
    (behind : cut ≤ found.start) : ∃ seen : Match, seen.IsWhole ∧ found = seen.shift cut := by
  rcases found with ⟨start, stop, group⟩
  obtain ⟨orderly, ungrouped⟩ := whole
  simp only at orderly ungrouped behind
  subst ungrouped
  refine ⟨⟨start - cut, stop - cut, none⟩, ⟨by dsimp only; omega, rfl⟩, ?_⟩
  simp only [Match.shift, Option.map_none, Match.mk.injEq, and_true]
  omega

theorem exists_map_shift {found : List Match} {cut : Nat} (whole : ∀ m ∈ found, m.IsWhole)
    (behind : ∀ m ∈ found, cut ≤ m.start) :
    ∃ seen : List Match, (∀ m ∈ seen, m.IsWhole) ∧ found = seen.map (Match.shift cut) := by
  induction found with
  | nil => exact ⟨[], List.forall_mem_nil _, rfl⟩
  | cons first rest ih =>
    obtain ⟨seen, firstWhole, rfl⟩ := (whole first List.mem_cons_self).exists_shift
      (behind first List.mem_cons_self)
    obtain ⟨others, othersWhole, rfl⟩ := ih
      (fun m member => whole m (List.mem_cons_of_mem _ member))
      (fun m member => behind m (List.mem_cons_of_mem _ member))
    exact ⟨seen :: others, List.forall_mem_cons.mpr ⟨firstWhole, othersWhole⟩, rfl⟩

/-- Whole matches in order, none of which reaches over an offset, fall into those before it and
those behind it. -/
theorem exists_append_of_uncut {found : List Match} {cut : Nat}
    (ordered : found.Pairwise fun a b => a.stop ≤ b.start) (whole : ∀ m ∈ found, m.IsWhole)
    (uncut : ∀ m ∈ found, m.stop ≤ cut ∨ cut ≤ m.start) :
    ∃ earlier seen : List Match, found = earlier ++ seen.map (Match.shift cut) ∧
      (∀ m ∈ earlier, m.stop ≤ cut) ∧ ∀ m ∈ seen, m.IsWhole := by
  induction found with
  | nil => exact ⟨[], [], rfl, List.forall_mem_nil _, List.forall_mem_nil _⟩
  | cons first rest ih =>
    obtain ⟨after, restOrdered⟩ := List.pairwise_cons.mp ordered
    rcases uncut first List.mem_cons_self with before | behind
    · obtain ⟨earlier, seen, rfl, left, seenWhole⟩ := ih restOrdered
        (fun m member => whole m (List.mem_cons_of_mem _ member))
        (fun m member => uncut m (List.mem_cons_of_mem _ member))
      exact ⟨first :: earlier, seen, rfl, List.forall_mem_cons.mpr ⟨before, left⟩, seenWhole⟩
    · have allBehind : ∀ m ∈ first :: rest, cut ≤ m.start := by
        refine List.forall_mem_cons.mpr ⟨behind, fun m inRest => ?_⟩
        have orderly := (whole first List.mem_cons_self).1
        have apart := after m inRest
        omega
      obtain ⟨seen, seenWhole, same⟩ := exists_map_shift whole allBehind
      exact ⟨[], seen, same, List.forall_mem_nil _, seenWhole⟩

/-- A match of the whole text that lies in a part is found in the part. -/
theorem exists_hit_of_part {left part right : Text} {m : Match}
    (inText : m.shift left.length ∈
      Pattern.longString.matchesIn none (left ++ (part ++ right)))
    (inside : m.stop ≤ part.length) (before : Option Char) :
    ∃ hit, Pattern.longString.hit before (part.drop m.start) = some hit ∧
      m = hit.place m.start := by
  have scan := Pattern.isScan_matchesIn Pattern.consumes_longString none (left ++ (part ++ right))
  obtain ⟨hit, here, placed⟩ := scan.hits _ inText
  have start : (m.shift left.length).start = left.length + m.start := rfl
  have stop : left.length + m.stop = left.length + m.start + hit.length :=
    congrArg Match.stop placed
  rw [start, ← List.drop_drop, List.drop_left, List.drop_append_of_le_length (by omega)] at here
  refine ⟨hit, Pattern.hit_longString_of_append here (by rw [List.length_drop]; omega), ?_⟩
  obtain ⟨rest, n, -, -, rfl⟩ := Pattern.hit_longString_iff.mp here
  have ungrouped : m.group = none := Option.map_eq_none_iff.mp (congrArg Match.group placed)
  rcases m with ⟨first, last, group⟩
  simp only [Hit.place, Hit.whole, Option.map_none, Match.mk.injEq, true_and] at stop ungrouped ⊢
  exact ⟨by omega, ungrouped⟩

section Part

variable {left part right : Text} {earlier inside later : List Match}

/-- A long string that reaches into a part is one of the matches that lie in the part. -/
theorem exists_mem_inside (agree : LongStringsAgree (left ++ (part ++ right)))
    (split : Pattern.longString.matchesIn none (left ++ (part ++ right)) =
      earlier ++ (inside ++ later.map (Match.shift part.length)).map (Match.shift left.length))
    (isEarlier : ∀ m ∈ earlier, m.stop ≤ left.length) {long : LongString}
    (member : long ∈ LongString.all (left ++ (part ++ right)))
    (reaches : left.length < long.stop (left ++ (part ++ right)).length)
    (opens : long.opener < left.length + part.length) :
    ∃ m ∈ inside, left.length + m.start = long.opener ∧
      left.length + m.stop = long.stop (left ++ (part ++ right)).length := by
  have inText : long.toMatch (left ++ (part ++ right)).length ∈
      Pattern.longString.matchesIn none (left ++ (part ++ right)) := by
    rw [agree]
    exact List.mem_map_of_mem member
  rw [split] at inText
  rcases List.mem_append.mp inText with inEarlier | inRest
  · exact absurd (isEarlier _ inEarlier) (Nat.not_le.mpr reaches)
  · obtain ⟨m, inParts, same⟩ := List.mem_map.mp inRest
    have start : left.length + m.start = long.opener := congrArg Match.start same
    have stop : left.length + m.stop = long.stop (left ++ (part ++ right)).length :=
      congrArg Match.stop same
    rcases List.mem_append.mp inParts with inPart | behind
    · exact ⟨m, inPart, start, stop⟩
    · obtain ⟨n, -, rfl⟩ := List.mem_map.mp behind
      have nStart : (n.shift part.length).start = part.length + n.start := rfl
      omega

/-- The matches of the whole text that lie in a part are a scan of the part. -/
theorem isScan_longString_part (agree : LongStringsAgree (left ++ (part ++ right)))
    (split : Pattern.longString.matchesIn none (left ++ (part ++ right)) =
      earlier ++ (inside ++ later.map (Match.shift part.length)).map (Match.shift left.length))
    (isEarlier : ∀ m ∈ earlier, m.stop ≤ left.length)
    (isInside : ∀ m ∈ inside, m.stop ≤ part.length) (before : Option Char) :
    Pattern.longString.IsScan before part inside := by
  have ordered := (Pattern.isScan_matchesIn Pattern.consumes_longString none
    (left ++ (part ++ right))).ordered
  rw [split, List.pairwise_append, List.map_append, List.pairwise_append,
    List.pairwise_map] at ordered
  refine ⟨fun m member => ?_, ordered.2.1.1.imp fun apart => ?_, fun pos hit found => ?_⟩
  · have inText : m.shift left.length ∈
        Pattern.longString.matchesIn none (left ++ (part ++ right)) := by
      rw [split]
      exact List.mem_append_right _ (List.mem_map_of_mem (List.mem_append_left _ member))
    exact exists_hit_of_part inText (isInside m member) _
  · exact Nat.le_of_add_le_add_left apart
  · -- a match in the part starts with three quotes, which belong to a long string of the text
    have triple := tripleAt_of_hit_longString found
    have short := (Pattern.hit_within found).length_le
    have positive := Pattern.consumes_longString _ _ _ found
    rw [List.length_drop] at short
    have tripleInText : TripleAt (left ++ (part ++ right)) (left.length + pos) := by
      unfold TripleAt
      rw [← List.drop_drop, List.drop_left, List.drop_append_of_le_length (by omega)]
      exact triple.trans (List.prefix_append _ _)
    obtain ⟨long, inAll, low, high⟩ := LongString.exists_of_tripleAt tripleInText
    obtain ⟨m, inPart, start, stop⟩ :=
      exists_mem_inside agree split isEarlier inAll (by omega) (by omega)
    exact ⟨m, inPart, by omega, by omega⟩

end Part

/-- No long string of a text reaches over either end of its middle part. -/
def CutsNoLongString (left part right : Text) : Prop :=
  ∀ long ∈ LongString.all (left ++ (part ++ right)),
    ¬ long.Cuts (left ++ (part ++ right)).length left.length ∧
    ¬ long.Cuts (left ++ (part ++ right)).length (left.length + part.length)

/-- In a part of a text that cuts no long string, the pattern finds the matches of the whole text
that lie in the part. -/
theorem matchesIn_longString_of_uncut {left part right : Text}
    (agree : LongStringsAgree (left ++ (part ++ right)))
    (uncut : CutsNoLongString left part right) (before : Option Char) :
    ∃ earlier later : List Match, (∀ m ∈ earlier, m.Within left.length) ∧
      Pattern.longString.matchesIn none (left ++ (part ++ right)) =
        earlier ++ (Pattern.longString.matchesIn before part ++
          later.map (Match.shift part.length)).map (Match.shift left.length) := by
  have ordered := (Pattern.isScan_matchesIn Pattern.consumes_longString none
    (left ++ (part ++ right))).ordered
  have uncutMatches : ∀ m ∈ Pattern.longString.matchesIn none (left ++ (part ++ right)),
      m.IsWhole ∧ (m.stop ≤ left.length ∨ left.length ≤ m.start) ∧
        (m.stop ≤ left.length + part.length ∨ left.length + part.length ≤ m.start) := by
    intro m member
    rw [agree] at member
    obtain ⟨long, inAll, rfl⟩ := List.mem_map.mp member
    have bounds := LongString.bounds_of_mem_all inAll
    obtain ⟨freeLeft, freeRight⟩ := uncut long inAll
    simp only [LongString.Cuts] at freeLeft freeRight
    simp only [LongString.toMatch, Match.IsWhole, and_true]
    omega
  obtain ⟨earlier, seen, split, isEarlier, seenWhole⟩ := exists_append_of_uncut ordered
    (fun m member => (uncutMatches m member).1) (fun m member => (uncutMatches m member).2.1)
  rw [split, List.pairwise_append, List.pairwise_map] at ordered
  have seenUncut : ∀ m ∈ seen, m.stop ≤ part.length ∨ part.length ≤ m.start := by
    intro m member
    have inText : m.shift left.length ∈
        Pattern.longString.matchesIn none (left ++ (part ++ right)) := by
      rw [split]
      exact List.mem_append_right _ (List.mem_map_of_mem member)
    have free := (uncutMatches _ inText).2.2
    simp only [Match.shift] at free
    omega
  obtain ⟨inside, later, rfl, isInside, -⟩ := exists_append_of_uncut
    (ordered.2.1.imp fun apart => Nat.le_of_add_le_add_left apart) seenWhole seenUncut
  have scan := isScan_longString_part agree split isEarlier isInside before
  have same := scan.unique Pattern.consumes_longString
    (Pattern.isScan_matchesIn Pattern.consumes_longString before part)
  refine ⟨earlier, later, fun m member => ?_, by rw [split, same]⟩
  have inText : m ∈ Pattern.longString.matchesIn none (left ++ (part ++ right)) := by
    rw [split]
    exact List.mem_append_left _ member
  obtain ⟨orderly, ungrouped⟩ := (uncutMatches m inText).1
  exact ⟨orderly, isEarlier m member, fun part took => by rw [ungrouped] at took; cases took⟩

end TurtleEdit
