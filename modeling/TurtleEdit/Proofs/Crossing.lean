import TurtleEdit.Proofs.Overhangs
import TurtleEdit.Proofs.Quotes

/-!
What reaches over a quote, pattern by pattern.

A region that is widened to the end of a long string, or to its opener, starts beside a quote, and
a match that reaches over its start holds that quote. Most patterns of words hold none. An iri may,
and then nothing else is found up to its closing bracket. A comment runs to the end of its line, and
so does every comment that is found in it. For these it is seen from what is painted whether a scan
from the start of the region resumes the scan of the text: if it paints the same, it takes the same.
-/

namespace TurtleEdit

/-! ## Patterns that hold no quote -/

/-- Patterns of words of which no quote is part. -/
def Pattern.holdsNoQuote : Pattern → Bool
  | iri | datatypeIri => false
  | pattern => pattern.inWord

/-- Such a match stops before a quote. -/
theorem Pattern.length_le_of_holdsNoQuote {pattern : Pattern} (quiet : pattern.holdsNoQuote = true)
    {before : Option Char} {text rest : Text} {hit : Hit}
    (found : pattern.hit before (text ++ '"' :: rest) = some hit) :
    hit.length ≤ max 1 text.length := by
  have within : pattern.hit before text = some hit → hit.length ≤ max 1 text.length :=
    fun alone => Nat.le_trans (hit_within alone).length_le (Nat.le_max_right _ _)
  cases pattern <;>
    simp only [holdsNoQuote, Pattern.inWord, wordBound, Bool.false_eq_true] at quiet
  case directive word =>
    simp only [Bool.and_eq_true, List.all_eq_true, bne_iff_ne] at quiet
    have foreign : '"' ∉ word.toList := fun member => (quiet.2 _ member).2 rfl
    rw [hit_directive_append_cut foreign (by decide)] at found
    exact within found
  case declaredNamespace =>
    rw [hit_declaredNamespace_append_quote] at found
    exact within found
  case datatypeName | language | blankNode | prefixedName =>
    rw [hit_append_named rfl (by decide) (by decide)] at found
    exact within found
  case punctuation =>
    simp only [Pattern.hit] at found
    split at found
    · split at found
      · cases found
        exact Nat.le_max_left 1 _
      · cases found
    · cases found

/-- A quote stands right before an offset or right at it. -/
def BesideQuote (text : Text) (cut s : Nat) : Prop :=
  (s + 1 = cut ∨ s = cut) ∧ text[s]? = some '"'

theorem drop_eq_append_cons {text : Text} {p s : Nat} {c : Char} (here : text[s]? = some c)
    (order : p ≤ s) :
    ∃ front, text.drop p = front ++ c :: text.drop (s + 1) ∧ front.length = s - p := by
  have inside := (List.getElem?_eq_some_iff.mp here).1
  refine ⟨(text.drop p).take (s - p), ?_, ?_⟩
  · rw [← drop_eq_cons_of_getElem? here]
    have rest : text.drop s = (text.drop p).drop (s - p) := by
      rw [List.drop_drop, Nat.add_sub_cancel' order]
    rw [rest, List.take_append_drop]
  · rw [List.length_take, List.length_drop]
    omega

section Seam

variable {rule : Rule} {text : Text} {region : Region} {canvas : Canvas} {earlier : List Match}
  {k s : Nat} (overhang : rule.pattern.Overhang text region earlier k)
  (beside : BesideQuote text region.start s)

include overhang beside

/-- Beside a quote these patterns have no overhang. -/
theorem Rule.resumes_of_holdsNoQuote (quiet : rule.pattern.holdsNoQuote = true) :
    rule.Resumes text region canvas := by
  refine resumes_of_no_overhang overhang ?_
  by_contra present
  obtain ⟨p, hit, before, reaches, here, -⟩ := overhang.exists_hit present
  obtain ⟨near, quote⟩ := beside
  obtain ⟨front, split, size⟩ := drop_eq_append_cons quote (show p ≤ s by omega)
  rw [split] at here
  have short := Pattern.length_le_of_holdsNoQuote quiet here
  omega

end Seam

/-! ## Iris -/

/-- In an iri no bracket opens behind the first character, and the last one closes it. -/
theorem iriLength_spec {text : Text} {n : Nat} (found : iriLength text = some n) :
    1 < n ∧ text[0]? = some '<' ∧ (∀ i, 0 < i → i < n → text[i]? ≠ some '<') ∧
      text[n - 1]? = some '>' := by
  unfold iriLength at found
  split at found
  · next rest =>
    split at found
    · next after stops =>
      cases found
      have split : rest.takeWhile isIriChar ++ '>' :: after = rest := by
        rw [← stops]
        exact List.takeWhile_append_dropWhile
      have allIri : ∀ c ∈ rest.takeWhile isIriChar, isIriChar c = true :=
        List.all_eq_true.mp List.all_takeWhile
      unfold runLength
      generalize rest.takeWhile isIriChar = inner at split allIri
      subst split
      refine ⟨by omega, rfl, fun i positive inside bracket => ?_, ?_⟩
      · obtain ⟨j, rfl⟩ : ∃ j, i = j + 1 := ⟨i - 1, by omega⟩
        rw [List.getElem?_cons_succ] at bracket
        by_cases early : j < inner.length
        · rw [List.getElem?_append_left early] at bracket
          exact absurd (allIri _ (List.mem_of_getElem? bracket)) (by decide)
        · have last : j = inner.length := by omega
          rw [last, List.getElem?_append_right (Nat.le_refl _), Nat.sub_self] at bracket
          cases bracket
      · rw [Nat.add_succ_sub_one, List.getElem?_cons_succ,
          List.getElem?_append_right (Nat.le_refl _), Nat.sub_self]
        rfl
    · cases found
  · cases found

/-- The patterns of iris. -/
def Pattern.isIriPattern : Pattern → Bool
  | iri | datatypeIri => true
  | _ => false

/-- A match of such a pattern: behind some carets a bracket opens, no other one up to the last
character, and this closes it. -/
theorem Pattern.hit_isIriPattern {pattern : Pattern} (forIri : pattern.isIriPattern = true)
    {before : Option Char} {text : Text} {hit : Hit} (found : pattern.hit before text = some hit) :
    ∃ a, (∀ i, i < a → text[i]? = some '^') ∧ text[a]? = some '<' ∧
      (∀ i, a < i → i < hit.length → text[i]? ≠ some '<') ∧
      text[hit.length - 1]? = some '>' := by
  cases pattern <;> simp only [isIriPattern, Bool.false_eq_true] at forIri
  all_goals simp only [Pattern.hit] at found
  case iri =>
    obtain ⟨n, body, rfl⟩ := Option.map_eq_some_iff.mp found
    obtain ⟨-, opens, none, closes⟩ := iriLength_spec body
    exact ⟨0, fun i before => absurd before (Nat.not_lt_zero i), opens, none, closes⟩
  case datatypeIri =>
    split at found
    · next starts =>
      obtain ⟨n, body, rfl⟩ := Option.map_eq_some_iff.mp found
      obtain ⟨size, opens, none, closes⟩ := iriLength_spec body
      obtain ⟨rest, rfl⟩ := startsWith_iff.mp starts
      have behind : ∀ i, (('^' :: '^' :: rest : Text))[2 + i]? = rest[i]? := fun i => by
        rw [Nat.add_comm]
        rfl
      refine ⟨2, fun i before => ?_, opens, fun i low high => ?_, ?_⟩
      · obtain rfl | rfl : i = 0 ∨ i = 1 := by omega
        · rfl
        · rfl
      · obtain ⟨j, rfl⟩ : ∃ j, i = 2 + j := ⟨i - 2, by omega⟩
        have inside : j < n := Nat.lt_of_add_lt_add_left high
        exact behind j ▸ none j (by omega) inside
      · have last : (Hit.after 2 n).length - 1 = 2 + (n - 1) := by simp only [Hit.after]; omega
        rw [last]
        exact (behind (n - 1)).trans closes
    · cases found

/-- What stands in a region stands in the text. -/
theorem Region.getElem?_of_body {text : Text} {region : Region} {i : Nat} {c : Char}
    (here : (region.body text)[i]? = some c) : text[region.start + i]? = some c := by
  rw [body, List.getElem?_take] at here
  split at here
  · rwa [List.getElem?_drop] at here
  · cases here

theorem Region.getElem?_of_drop_body {text : Text} {region : Region} {j i : Nat} {c : Char}
    (here : ((region.body text).drop j)[i]? = some c) : text[region.start + j + i]? = some c := by
  rw [List.getElem?_drop] at here
  rw [Nat.add_assoc]
  exact getElem?_of_body here

section Seam

variable {rule : Rule} {text : Text} {region : Region} {canvas : Canvas} {earlier : List Match}
  {k s : Nat} (overhang : rule.pattern.Overhang text region earlier k)
  (beside : BesideQuote text region.start s)

include overhang beside

/-- Up to the closing bracket of an iri that holds a quote no other one is found. -/
theorem Rule.resumes_of_isIriPattern (forIri : rule.pattern.isIriPattern = true)
    (alike : rule.PaintsAlike text region canvas) : rule.Resumes text region canvas := by
  by_cases none : k = 0
  · exact resumes_of_no_overhang overhang none
  obtain ⟨p, hit, before, reaches, here, -⟩ := overhang.exists_hit none
  obtain ⟨a, carets, opens, single, closes⟩ := Pattern.hit_isIriPattern forIri here
  simp only [List.getElem?_drop] at carets opens single closes
  obtain ⟨near, quote⟩ := beside
  -- the quote is neither a caret nor the bracket, so it stands behind the bracket
  have behind : p + a < s := by
    by_contra early
    rcases Nat.lt_or_ge (s - p) a with caret | bracket
    · have char := carets (s - p) caret
      rw [show p + (s - p) = s by omega, quote] at char
      cases char
    · rw [show p + a = s by omega, quote] at opens
      cases opens
  refine resumes_of_silent overhang (fun j inside => ?_) alike
  cases found : rule.pattern.hit
    (Pattern.charBefore (region.before text) (region.body text) j) ((region.body text).drop j) with
  | none => rfl
  | some other =>
    obtain ⟨b, otherCarets, otherOpens, -, -⟩ := Pattern.hit_isIriPattern forIri found
    exfalso
    rcases Nat.lt_or_ge (j + b) k with within | outside
    · refine single (region.start + j + b - p) (by omega) (by omega) ?_
      rw [show p + (region.start + j + b - p) = region.start + j + b by omega]
      exact Region.getElem?_of_drop_body otherOpens
    · have caret := Region.getElem?_of_drop_body (otherCarets (k - 1 - j) (by omega))
      rw [show region.start + j + (k - 1 - j) = p + (hit.length - 1) by omega, closes] at caret
      cases caret

end Seam

/-! ## Comments -/

theorem getElem?_runLength {inClass : Char → Bool} {text : Text} {i : Nat} {c : Char}
    (here : text[i]? = some c) :
    (i < runLength inClass text → inClass c = true) ∧
      (i = runLength inClass text → inClass c = false) := by
  unfold runLength
  induction text generalizing i with
  | nil => cases here
  | cons d rest ih =>
    by_cases more : inClass d = true
    · rw [List.takeWhile_cons_of_pos more, List.length_cons]
      cases i with
      | zero =>
        cases here
        exact ⟨fun _ => more, fun none => absurd none (Nat.succ_ne_zero _).symm⟩
      | succ i =>
        obtain ⟨inside, behind⟩ := ih here
        exact ⟨fun early => inside (by omega), fun last => behind (by omega)⟩
    · rw [List.takeWhile_cons_of_neg more, List.length_nil]
      refine ⟨fun early => absurd early (Nat.not_lt_zero i), fun first => ?_⟩
      subst first
      cases here
      exact Bool.eq_false_iff.mpr more

/-- A comment begins behind a blank, with its sign, and runs to the end of the line. -/
theorem Pattern.hit_comment {pattern : Pattern} (comments : pattern = .comment)
    {before : Option Char} {text : Text} {hit : Hit} (found : pattern.hit before text = some hit) :
    afterBlank before = true ∧ text[0]? = some '#' ∧
      hit = .grouped (runLength (· != '\n') text) := by
  subst comments
  simp only [Pattern.hit] at found
  split at found
  · next conditions =>
    rw [Bool.and_eq_true] at conditions
    obtain ⟨rest, rfl⟩ := startsWith_iff.mp conditions.2
    cases found
    exact ⟨conditions.1, rfl, rfl⟩
  · cases found

theorem Pattern.consumes_comment {pattern : Pattern} (comments : pattern = .comment) :
    pattern.Consumes := by
  intro before text hit found
  obtain ⟨-, sign, rfl⟩ := hit_comment comments found
  by_contra empty
  have stops := (@getElem?_runLength (· != '\n') _ _ _ sign).2 (Nat.eq_zero_of_not_pos empty).symm
  cases stops

/-- Rules for comments paint them as a whole. -/
theorem Rule.target_comment {rule : Rule} (comments : rule.pattern = .comment)
    {before : Option Char} {text : Text} {hit : Hit}
    (found : rule.pattern.hit before text = some hit) (pos : Nat) :
    rule.target (hit.place pos) = some ((hit.place pos).start, (hit.place pos).stop) := by
  obtain ⟨-, -, rfl⟩ := Pattern.hit_comment comments found
  unfold target
  split
  · rfl
  · rfl

/-- Of the text in front, an offset of a region sees what it sees in the text. -/
theorem Region.charBefore_body {text : Text} {region : Region} {j : Nat}
    (inside : j ≤ (region.body text).length) :
    Pattern.charBefore (region.before text) (region.body text) j =
      Pattern.charBefore none text (region.start + j) := by
  have size : (region.body text).length ≤ region.stop - region.start := List.length_take_le _ _
  have front : text.take (region.start + j) =
      text.take region.start ++ (region.body text).take j := by
    rw [List.take_add, body, List.take_take, Nat.min_eq_left (by omega)]
  rw [Pattern.charBefore, Pattern.charBefore, front, List.getLast?_append, Option.or_none, before]

theorem Pattern.charBefore_of_getElem? {text : Text} {i : Nat} {c : Char}
    (here : text[i]? = some c) : charBefore none text (i + 1) = some c := by
  rw [charBefore, List.take_add_one, here, Option.toList_some, List.getLast?_concat]
  rfl

/-- Behind a painted character other than a quote the next one is painted. -/
def PaintedToQuote (text : Text) (canvas : Canvas) : Prop :=
  ∀ i style, canvas[i]? = some (some style) → text[i]? ≠ some '"' → canvas[i + 1]? ≠ some none

/-- So before an unpainted character stands a quote or an unpainted one. -/
theorem PaintedToQuote.unpainted_before {text : Text} {canvas : Canvas}
    (solid : PaintedToQuote text canvas) {i : Nat} (free : canvas[i + 1]? = some none)
    (other : text[i]? ≠ some '"') : canvas[i]? = some none := by
  have inside := (List.getElem?_eq_some_iff.mp free).1
  rw [List.getElem?_eq_getElem (by omega)]
  cases cell : canvas[i] with
  | none => rfl
  | some style =>
    have painted : canvas[i]? = some (some style) :=
      List.getElem?_eq_some_iff.mpr ⟨by omega, cell⟩
    exact absurd free (solid i style painted other)

section Seam

variable {rule : Rule} {text : Text} {region : Region} {canvas : Canvas} {earlier : List Match}
  {k s : Nat} (overhang : rule.pattern.Overhang text region earlier k)
  (beside : BesideQuote text region.start s) (comments : rule.pattern = .comment)
  (alike : rule.PaintsAlike text region canvas)

include comments alike

/-- A comment of the region that paints a character, at its offset in the region. -/
theorem Rule.exists_comment_of_paints {i : Nat} (low : region.start ≤ i) (high : i < region.stop)
    (painted : ∃ m ∈ rule.pattern.matchesIn none text, rule.Paints canvas m i) :
    ∃ j hit, hit.place j ∈ rule.pattern.matchesIn (region.before text) (region.body text) ∧
      rule.pattern.hit (Pattern.charBefore none text (region.start + j))
        ((region.body text).drop j) = some hit ∧
      canvas[region.start + j]? = some none ∧ region.start + j ≤ i ∧
      i < region.start + j + hit.length ∧ j ≤ (region.body text).length := by
  obtain ⟨_, found, paints⟩ := (alike i low high).mp painted
  obtain ⟨own, inScan, rfl⟩ := List.mem_map.mp found
  obtain ⟨j, hit, here, rfl, inside⟩ := Pattern.hit_of_mem_matchesFrom inScan
  rw [Nat.zero_add, Hit.shift_place] at paints
  obtain ⟨-, free, after, reach⟩ := (paints_iff (target_comment comments here _)).mp paints
  rw [Nat.zero_add] at inScan
  rw [Region.charBefore_body inside] at here
  exact ⟨j, hit, inScan, here, free, after, reach, inside⟩

include overhang

include beside in
/-- Where the same is painted, a comment that reaches over a quote paints nothing behind it. A
comment of the region would begin there behind a blank that is painted, too, but comments run to the
end of their line. -/
theorem Rule.not_paints_comment (solid : PaintedToQuote text canvas) :
    ∀ m ∈ earlier, ∀ i, region.start ≤ i → i < region.stop → ¬ rule.Paints canvas m i := by
  intro m member i low high paints
  have scan := Pattern.isScan_matchesIn (Pattern.consumes_comment comments) (region.before text)
    (region.body text)
  have inText := overhang.mem_of_earlier member
  have before := (overhang.early m member).1
  obtain ⟨p, hit, here, rfl, -⟩ := Pattern.hit_of_mem_matchesFrom inText
  have whole := target_comment comments here (0 + p)
  obtain ⟨-, free, -, reach⟩ := (paints_iff whole).mp paints
  obtain ⟨j, own, inScan, ownHere, ownFree, after, -, inside⟩ :=
    exists_comment_of_paints comments alike low high ⟨_, inText, paints⟩
  obtain ⟨blank, sign, -⟩ := Pattern.hit_comment comments ownHere
  cases j with
  | zero =>
    obtain ⟨near | near, quote⟩ := beside
    · rw [Nat.add_zero, ← near, Pattern.charBefore_of_getElem? quote] at blank
      cases blank
    · rw [near, ← Nat.add_zero region.start, Region.getElem?_of_body sign] at quote
      cases quote
  | succ j =>
    -- a blank stands before it, which is not painted either, so a comment of the region holds it
    obtain ⟨b, inBody⟩ : ∃ b, (region.body text)[j]? = some b :=
      ⟨_, List.getElem?_eq_getElem inside⟩
    have inFront : text[region.start + j]? = some b := Region.getElem?_of_body inBody
    rw [← Nat.add_assoc, Pattern.charBefore_of_getElem? inFront] at blank
    have other : text[region.start + j]? ≠ some '"' := by
      rintro same
      rw [inFront] at same
      cases same
      cases blank
    have frontFree := solid.unpainted_before ownFree other
    have paintsFront := (@paints_iff _ _ _ (region.start + j) whole).mpr
      ⟨frontFree, free, by omega, by omega⟩
    obtain ⟨l, third, alsoInScan, thirdHere, -, thirdAfter, thirdReach, -⟩ :=
      exists_comment_of_paints comments alike (by omega) (by omega) ⟨_, inText, paintsFront⟩
    obtain ⟨-, -, rfl⟩ := Pattern.hit_comment comments thirdHere
    -- but comments stop with the line only
    rcases scan.apart alsoInScan inScan with same | stops | stops
    · have starts : l = j + 1 := congrArg Match.start same
      omega
    · simp only [Hit.place, Hit.grouped] at stops thirdReach
      rw [List.getElem?_drop, Nat.add_zero] at sign
      have next : ((region.body text).drop l)[j + 1 - l]? = some '#' := by
        rw [List.getElem?_drop, show l + (j + 1 - l) = j + 1 by omega, sign]
      have stopped := (@getElem?_runLength (· != '\n') _ _ _ next).2 (by omega)
      cases stopped
    · simp only [Hit.place] at stops
      omega

omit alike in
/-- What a scan of the region finds behind the overhang of a comment, it finds anyway. -/
theorem Rule.matchesFrom_comment (present : k ≠ 0) :
    ∃ found, rule.pattern.matchesFrom region.start 0 (region.before text) (region.body text) =
        found ++ rule.pattern.matchesFrom region.start k (region.before text) (region.body text) ∧
      ∀ m ∈ found, m.start < region.start + k := by
  obtain ⟨p, hit, before, reaches, here, -⟩ := overhang.exists_hit present
  obtain ⟨-, -, rfl⟩ := Pattern.hit_comment comments here
  have short := overhang.short
  have headSize : ((region.body text).take k).length = k := List.length_take_of_le short
  have passed := rule.pattern.matchesFrom_length_append region.start (region.before text)
    ((region.body text).take k) ((region.body text).drop k)
  obtain ⟨found, beyond, split, beyondShort, -, early, reach⟩ :=
    rule.pattern.exists_matchesFrom_overhang region.start (region.before text)
      (Nat.zero_le ((region.body text).take k ++ (region.body text).drop k).length)
  rw [List.take_append_drop, headSize] at passed split
  rw [headSize] at early reach
  -- a comment that reaches over the end of the overhang would hold the end of the line
  have none : beyond = 0 := by
    rcases reach with own | ⟨m, member, stops⟩
    · omega
    · by_contra more
      have inScan : m ∈ rule.pattern.matchesFrom region.start 0 (region.before text)
          (region.body text) := by
        rw [split]
        exact List.mem_append_left _ member
      have starts := (early m member).1
      obtain ⟨j, other, otherHere, rfl, -⟩ := Pattern.hit_of_mem_matchesFrom inScan
      obtain ⟨-, -, rfl⟩ := Pattern.hit_comment comments otherHere
      simp only [Hit.place, Hit.grouped] at stops starts reaches
      rw [List.length_drop] at beyondShort
      obtain ⟨c, inBody⟩ : ∃ c, (region.body text)[k]? = some c :=
        ⟨_, List.getElem?_eq_getElem (by omega)⟩
      have inText := Region.getElem?_of_body inBody
      rw [← reaches, ← List.getElem?_drop] at inText
      have inOther : ((region.body text).drop j)[k - j]? = some c := by
        rw [List.getElem?_drop, show j + (k - j) = k by omega, inBody]
      have ends := (@getElem?_runLength (· != '\n') _ _ _ inText).2 rfl
      have goesOn := (@getElem?_runLength (· != '\n') _ _ _ inOther).1 (by omega)
      rw [ends] at goesOn
      cases goesOn
  rw [none] at split
  rw [passed]
  exact ⟨found, split, fun m member => (early m member).1⟩

include beside in
/-- Where the same is painted, the comments of a region that starts beside a quote are those of the
text. -/
theorem Rule.resumes_of_comment (solid : PaintedToQuote text canvas) :
    rule.Resumes text region canvas := by
  by_cases none : k = 0
  · exact resumes_of_no_overhang overhang none
  have spares := not_paints_comment overhang beside comments alike solid
  obtain ⟨found, split, early⟩ := matchesFrom_comment overhang comments none
  refine resumes_of_overhang overhang spares fun m taken => ?_
  rw [split, List.mem_append, or_iff_right]
  intro member
  -- what is found in the overhang alone is not taken, because it would be painted
  have inScan : m ∈ rule.pattern.matchesFrom region.start 0 (region.before text)
      (region.body text) := by
    rw [split]
    exact List.mem_append_left _ member
  have starts := early m member
  obtain ⟨j, hit, here, rfl, -⟩ := Pattern.hit_of_mem_matchesFrom inScan
  have filled := Pattern.consumes_comment comments _ _ _ here
  have paints := taken.paints_start (target_comment comments here _)
    (Nat.lt_add_of_pos_right filled)
  obtain ⟨other, later, also⟩ :=
    (overhang.exists_paints_iff spares alike _).mpr ⟨_, inScan, paints⟩
  have behind := Pattern.skip_le_of_mem_matchesFrom overhang.short later
  have bounds := also.bounds (aimsInside_of_mem later)
  omega

end Seam

end TurtleEdit
