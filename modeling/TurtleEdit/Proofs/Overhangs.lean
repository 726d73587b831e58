import TurtleEdit.Proofs.Rescan
import TurtleEdit.Proofs.Resuming

/-!
What a scan has found before a cut reaches over it by some characters.

Behind the cut the scan goes on as a scan that begins there and passes over these characters. So
whether a scan from the cut paints the same depends on what it finds in the overhang, and on what
the match that reaches over would have painted of it.
-/

namespace TurtleEdit

namespace Pattern

variable {pattern : Pattern}

/-! ## Scans in two parts -/

/-- The scan of a text in two parts: what begins in the first part, and then a scan of the second
that passes over the overhang. -/
theorem exists_matchesFrom_overhang (pattern : Pattern) (pos : Nat) {skip : Nat}
    (before : Option Char) {text rest : Text} (short : skip ≤ (text ++ rest).length) :
    ∃ earlier k, pattern.matchesFrom pos skip before (text ++ rest) =
        earlier ++ pattern.matchesFrom (pos + text.length) k
          (charBefore before text text.length) rest ∧
      k ≤ rest.length ∧ skip ≤ text.length + k ∧
      (∀ m ∈ earlier, m.start < pos + text.length ∧ m.stop ≤ pos + text.length + k) ∧
      (k = skip - text.length ∨ ∃ m ∈ earlier, m.stop = pos + text.length + k) := by
  induction text generalizing pos skip before with
  | nil =>
    exact ⟨[], skip, rfl, short, Nat.le_add_left _ _, List.forall_mem_nil _, Or.inl rfl⟩
  | cons c tail ih =>
    have position : pos + (c :: tail).length = pos + 1 + tail.length := by
      rw [List.length_cons]
      omega
    rw [position, List.length_cons, charBefore_succ, List.cons_append]
    rw [List.cons_append, List.length_cons] at short
    cases skip with
    | succ skip =>
      obtain ⟨earlier, k, split, bound, passed, early, reach⟩ :=
        ih (pos + 1) (some c) (Nat.le_of_succ_le_succ short)
      exact ⟨earlier, k, split, bound, by omega, early, reach.imp (fun own => by omega) id⟩
    | zero =>
      rw [matchesFrom]
      split
      · next hit here =>
        obtain ⟨earlier, k, split, bound, passed, early, reach⟩ :=
          ih (pos + 1) (some c) (length_sub_one_le here)
        have stops : (hit.place pos).stop = pos + hit.length := rfl
        refine ⟨hit.place pos :: earlier, k, by rw [split, List.cons_append], bound, Nat.zero_le _,
          List.forall_mem_cons.mpr ⟨⟨?_, by omega⟩, early⟩, ?_⟩
        · exact Nat.lt_of_lt_of_le (Nat.lt_succ_self pos) (Nat.le_add_right _ _)
        · rcases reach with own | ⟨m, member, reaches⟩
          · by_cases none : k = 0
            · exact Or.inl (by omega)
            · exact Or.inr ⟨hit.place pos, List.mem_cons_self, by omega⟩
          · exact Or.inr ⟨m, List.mem_cons_of_mem _ member, reaches⟩
      · obtain ⟨earlier, k, split, bound, -, early, reach⟩ :=
          ih (pos + 1) (some c) (Nat.zero_le _)
        exact ⟨earlier, k, split, bound, Nat.zero_le _, early, reach.imp (fun own => by omega) id⟩

/-- Where nothing is found anyway, it does not matter whether it is passed over. -/
theorem matchesFrom_of_silent (pos : Nat) {k : Nat} {before : Option Char} {text : Text}
    (short : k ≤ text.length)
    (silent : ∀ j, j < k → pattern.hit (charBefore before text j) (text.drop j) = none) :
    pattern.matchesFrom pos 0 before text = pattern.matchesFrom pos k before text := by
  induction text generalizing pos k before with
  | nil => rw [Nat.le_zero.mp short]
  | cons c rest ih =>
    cases k with
    | zero => rfl
    | succ k =>
      have first : pattern.hit before (c :: rest) = none := silent 0 (Nat.succ_pos k)
      have goesOn : pattern.matchesFrom pos 0 before (c :: rest) =
          pattern.matchesFrom (pos + 1) 0 (some c) rest := by rw [matchesFrom, first]
      rw [goesOn]
      refine ih (pos + 1) (Nat.le_of_succ_le_succ short) fun j before => ?_
      have later := silent (j + 1) (Nat.succ_lt_succ before)
      rwa [charBefore_succ, List.drop_succ_cons] at later

/-! ## Overhangs at the start of a region -/

/-- The matches of a text up to the end of a region: those that begin before the region and reach
`k` characters into it, and those of a scan of the region that passes over these characters. -/
structure Overhang (pattern : Pattern) (text : Text) (region : Region) (earlier : List Match)
    (k : Nat) : Prop where
  ordered : region.start ≤ region.stop
  split : ∀ m, m.start < region.stop → (m ∈ pattern.matchesIn none text ↔
    m ∈ earlier ∨ m ∈ pattern.matchesFrom region.start k (region.before text) (region.body text))
  early : ∀ m ∈ earlier, m.start < region.start ∧ m.stop ≤ region.start + k
  short : k ≤ (region.body text).length
  reach : k = 0 ∨ ∃ m ∈ earlier, m.stop = region.start + k

theorem matches_eq_matchesFrom (pattern : Pattern) (text : Text) (region : Region) :
    region.matches pattern text =
      pattern.matchesFrom region.start 0 (region.before text) (region.body text) :=
  (matchesFrom_add pattern region.start 0 0 _ _).symm

end Pattern

namespace Region

/-- The region of the middle one of three texts. -/
def middle (left part : Text) : Region := ⟨left.length, left.length + part.length⟩

theorem before_middle (left part right : Text) :
    (middle left part).before (left ++ (part ++ right)) = left.getLast? := by
  rw [before, middle, List.take_left]

theorem body_middle (left part right : Text) :
    (middle left part).body (left ++ (part ++ right)) = part := by
  rw [body, middle, List.drop_left, Nat.add_sub_cancel_left, List.take_left]

end Region

theorem Pattern.charBefore_length (before : Option Char) (text : Text) :
    charBefore before text text.length = text.getLast?.or before := by
  rw [charBefore, List.take_length]

section Middle

variable {pattern : Pattern} {left part right : Text}

/-- What follows the end of a line does not change what a pattern bound to its line finds before
it. -/
theorem Pattern.mem_matchesIn_append_endsLine (bound : pattern.lineBound = true) {text : Text}
    (inLine : DeclarationsInLine (text ++ right)) (ends : EndsLine right) {m : Match}
    (inside : m.start < text.length) :
    m ∈ pattern.matchesIn none (text ++ right) ↔ m ∈ pattern.matchesIn none text := by
  rcases ends with rfl | ⟨rest, rfl⟩
  · rw [List.append_nil]
  · have closed : ¬ EndsInOpenDeclaration text := @DeclarationsInLine.closed [] text rest inLine
    rw [matchesIn_append_newline bound closed, List.mem_append, or_iff_left]
    intro later
    obtain ⟨own, -, rfl⟩ := List.mem_map.mp later
    simp only [Match.shift] at inside
    omega

/-- A region that stops with a line has an overhang for every pattern bound to its line. -/
theorem Pattern.exists_overhang (bound : pattern.lineBound = true)
    (inLine : DeclarationsInLine (left ++ (part ++ right))) (ends : EndsLine right) :
    ∃ earlier k, pattern.Overhang (left ++ (part ++ right)) (.middle left part) earlier k := by
  obtain ⟨earlier, k, split, short, -, early, reach⟩ :=
    pattern.exists_matchesFrom_overhang 0 none (Nat.zero_le (left ++ part).length)
  rw [Nat.zero_add, charBefore_length, Option.or_none] at split
  rw [Nat.zero_add, Nat.zero_sub] at reach
  refine ⟨earlier, k, Nat.le_add_right _ _, fun m inside => ?_, fun m member => ?_, ?_, reach⟩
  · rw [Region.before_middle, Region.body_middle, ← List.append_assoc] at *
    have inText : m.start < (left ++ part).length := by
      rw [List.length_append]
      exact inside
    rw [mem_matchesIn_append_endsLine bound inLine ends inText, matchesIn, split, List.mem_append]
    rfl
  · have bounds := early m member
    rw [Nat.zero_add] at bounds
    exact bounds
  · rw [Region.body_middle]
    exact short

end Middle

/-! ## Resuming behind an overhang -/

section Overhang

variable {rule : Rule} {text : Text} {region : Region} {canvas : Canvas} {earlier : List Match}
  {k : Nat} (overhang : rule.pattern.Overhang text region earlier k)

include overhang

theorem Pattern.Overhang.mem_of_earlier {m : Match} (member : m ∈ earlier) :
    m ∈ rule.pattern.matchesIn none text := by
  have before := (overhang.early m member).1
  have ordered := overhang.ordered
  exact (overhang.split m (by omega)).mpr (Or.inl member)

/-- A scan from the start of the region resumes the scan of the text, if what reaches over paints
nothing in the region and nothing is taken in the overhang alone. -/
theorem Rule.resumes_of_overhang
    (spares : ∀ m ∈ earlier, ∀ i, region.start ≤ i → i < region.stop → ¬ rule.Paints canvas m i)
    (same : ∀ m, rule.Takes canvas m →
      (m ∈ rule.pattern.matchesFrom region.start k (region.before text) (region.body text) ↔
        m ∈ rule.pattern.matchesFrom region.start 0 (region.before text) (region.body text))) :
    rule.Resumes text region canvas where
  spares m member before i low high := by
    rcases (overhang.split m (by omega)).mp member with inEarlier | later
    · exact spares m inEarlier i low high
    · have := (Pattern.within_of_mem_matchesFrom later).1
      omega
  taken m low high taken := by
    rw [overhang.split m high, Pattern.matches_eq_matchesFrom, ← same m taken]
    refine or_iff_right fun inEarlier => ?_
    have := (overhang.early m inEarlier).1
    omega

/-- Where nothing reaches over, the scan is resumed. -/
theorem Rule.resumes_of_no_overhang (none : k = 0) : rule.Resumes text region canvas := by
  subst none
  refine resumes_of_overhang overhang (fun m member i low high paints => ?_) fun m _ => Iff.rfl
  have reach := (overhang.early m member).2
  have bounds := paints.bounds (aimsInside_of_mem (overhang.mem_of_earlier member))
  omega

/-- Where nothing is found in the overhang, the scan is resumed if the same is painted. -/
theorem Rule.resumes_of_silent
    (silent : ∀ j, j < k → rule.pattern.hit
      (Pattern.charBefore (region.before text) (region.body text) j)
      ((region.body text).drop j) = none)
    (alike : rule.PaintsAlike text region canvas) : rule.Resumes text region canvas := by
  have same := Pattern.matchesFrom_of_silent region.start overhang.short silent
  refine resumes_of_overhang overhang (fun m member i low high paints => ?_) fun m _ => by rw [same]
  -- what is painted in the overhang would have to be found behind it
  have inText := overhang.mem_of_earlier member
  have reach := (overhang.early m member).2
  have bounds := paints.bounds (aimsInside_of_mem inText)
  obtain ⟨other, found, also⟩ := (alike i low high).mp ⟨m, inText, paints⟩
  have otherBounds := also.bounds (aimsInside_of_mem_matches found)
  rw [Pattern.matches_eq_matchesFrom, same] at found
  have behind := Pattern.skip_le_of_mem_matchesFrom overhang.short found
  omega

/-- If the same is painted, and what reaches over paints nothing, then it does not matter for what
is painted whether the overhang is passed over. -/
theorem Pattern.Overhang.exists_paints_iff
    (spares : ∀ m ∈ earlier, ∀ i, region.start ≤ i → i < region.stop → ¬ rule.Paints canvas m i)
    (alike : rule.PaintsAlike text region canvas) (i : Nat) :
    (∃ m ∈ rule.pattern.matchesFrom region.start k (region.before text) (region.body text),
        rule.Paints canvas m i) ↔
      ∃ m ∈ rule.pattern.matchesFrom region.start 0 (region.before text) (region.body text),
        rule.Paints canvas m i := by
  have ordered := overhang.ordered
  have size : (region.body text).length ≤ region.stop - region.start := List.length_take_le _ _
  have inside : ∀ {skip m}, m ∈ rule.pattern.matchesFrom region.start skip (region.before text)
      (region.body text) → rule.Paints canvas m i →
      region.start ≤ m.start ∧ m.start ≤ i ∧ i < region.stop := by
    intro skip m member paints
    obtain ⟨low, within⟩ := Pattern.within_of_mem_matchesFrom member
    have bounds := paints.bounds (Rule.aimsInside_of_mem member)
    have high := within.stop_le
    omega
  constructor
  · rintro ⟨m, member, paints⟩
    obtain ⟨low, after, high⟩ := inside member paints
    have inText := (overhang.split m (by omega)).mpr (Or.inr member)
    obtain ⟨other, found, also⟩ := (alike i (by omega) high).mp ⟨m, inText, paints⟩
    rw [Pattern.matches_eq_matchesFrom] at found
    exact ⟨other, found, also⟩
  · rintro ⟨m, member, paints⟩
    obtain ⟨low, after, high⟩ := inside member paints
    rw [← Pattern.matches_eq_matchesFrom] at member
    obtain ⟨other, inText, also⟩ := (alike i (by omega) high).mpr ⟨m, member, paints⟩
    have bounds := also.bounds (Rule.aimsInside_of_mem inText)
    rcases (overhang.split other (by omega)).mp inText with inEarlier | later
    · exact absurd also (spares other inEarlier i (by omega) high)
    · exact ⟨other, later, also⟩

/-- A match that reaches over the start of the region. -/
theorem Pattern.Overhang.exists_hit (present : k ≠ 0) :
    ∃ p hit, p < region.start ∧ p + hit.length = region.start + k ∧
      rule.pattern.hit (Pattern.charBefore none text p) (text.drop p) = some hit ∧
      hit.place p ∈ earlier := by
  rcases overhang.reach with none | ⟨m, member, reaches⟩
  · exact absurd none present
  · obtain ⟨p, hit, here, rfl, -⟩ :=
      Pattern.hit_of_mem_matchesFrom (overhang.mem_of_earlier member)
    rw [Nat.zero_add] at member reaches
    exact ⟨p, hit, (overhang.early _ member).1, reaches, here, member⟩

end Overhang

end TurtleEdit
