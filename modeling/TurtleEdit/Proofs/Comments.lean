import TurtleEdit.Proofs.Seams
import TurtleEdit.Proofs.Tables

/-!
Strings and comments in a highlighted text.

The rules for long strings, for strings and for comments come first in the standard table, and no
other rule has their styles. So it is seen from their matches alone what is a string: what lies in a
long string, and the strings that do not begin in one. The rest is a comment if a comment holds it
that does not begin in a string.

A line holds one match of the rule for comments at most: the first sign behind a blank begins it,
and it takes the rest of the line. If that sign stands in a string, then the match is left out as a
whole, and a sign further on begins no other one. Such a line shows no comment, even if one stands
behind the string.
-/

namespace TurtleEdit

/-! ## What the table says of strings and comments -/

/-- An offset lies in a match. -/
def Match.Holds (m : Match) (i : Nat) : Prop := m.start ≤ i ∧ i < m.stop

instance (m : Match) (i : Nat) : Decidable (m.Holds i) := inferInstanceAs (Decidable (_ ∧ _))

/-- An offset lies in a match of a pattern in a region. -/
def Region.Finds (region : Region) (pattern : Pattern) (text : Text) (i : Nat) : Prop :=
  ∃ m ∈ region.matches pattern text, m.Holds i

namespace Rule

variable {rule : Rule} {found : List Match} {styleAt : Nat → Option Style} {i : Nat}

/-- A rule that does not override gives its style to what it finds from an offset without a style,
where there is no style. -/
theorem restyle_eq_own_iff (keeps : rule.overrides = false)
    (whole : ∀ m ∈ found, rule.target m = some (m.start, m.stop)) :
    rule.restyle found styleAt i = some rule.style ↔
      styleAt i = some rule.style ∨
        styleAt i = none ∧ ∃ m ∈ found, m.Holds i ∧ styleAt m.start = none := by
  have claims : ∀ m ∈ found, rule.Claims styleAt m i ↔
      m.Holds i ∧ styleAt m.start = none ∧ styleAt i = none := by
    intro m member
    rw [Claims, whole m member, keeps]
    simp [Match.Holds, and_assoc]
  unfold restyle
  split
  · next claimed =>
    obtain ⟨m, member, own⟩ := claimed
    obtain ⟨holds, first, here⟩ := (claims m member).mp own
    exact iff_of_true rfl (Or.inr ⟨here, m, member, holds, first⟩)
  · next unclaimed =>
    refine (or_iff_left ?_).symm
    rintro ⟨here, m, member, holds, first⟩
    exact unclaimed ⟨m, member, (claims m member).mpr ⟨holds, first, here⟩⟩

/-- It gives and takes no other style. -/
theorem restyle_eq_iff_of_ne (keeps : rule.overrides = false) {style : Style}
    (other : rule.style ≠ style) :
    rule.restyle found styleAt i = some style ↔ styleAt i = some style := by
  refine ⟨fun styled => ?_, restyle_of_styled keeps found⟩
  unfold restyle at styled
  split at styled
  · exact absurd (Option.some.inj styled) other
  · exact styled

end Rule

/-- Rules of other styles that do not override leave it open to the rules before them what has a
style. -/
theorem declaredStyle_append_iff_of_ne {rules more : List Rule} {style : Style}
    (keep : ∀ rule ∈ more, rule.overrides = false) (other : ∀ rule ∈ more, rule.style ≠ style)
    (text : Text) (region : Region) (i : Nat) :
    declaredStyle (rules ++ more) text region i = some style ↔
      declaredStyle rules text region i = some style := by
  unfold declaredStyle
  rw [List.foldl_append]
  generalize rules.foldl _ _ = styleAt
  induction more generalizing styleAt with
  | nil => exact Iff.rfl
  | cons rule rest ih =>
    obtain ⟨ruleKeeps, restKeep⟩ := List.forall_mem_cons.mp keep
    obtain ⟨ruleOther, restOther⟩ := List.forall_mem_cons.mp other
    exact (ih restKeep restOther _).trans (Rule.restyle_eq_iff_of_ne ruleKeeps ruleOther)

/-- Rules of one style give this style or none. -/
theorem declaredStyle_eq_none_iff {rules : List Rule} {style : Style}
    (same : ∀ rule ∈ rules, rule.style = style) (text : Text) (region : Region) (i : Nat) :
    declaredStyle rules text region i = none ↔
      ¬ declaredStyle rules text region i = some style := by
  have either : ∀ styleAt : Nat → Option Style, (styleAt i = none ∨ styleAt i = some style) →
      let after := rules.foldl
        (fun styleAt rule => rule.restyle (region.matches rule.pattern text) styleAt) styleAt
      after i = none ∨ after i = some style := by
    induction rules with
    | nil => exact fun _ before => before
    | cons rule rest ih =>
      obtain ⟨own, others⟩ := List.forall_mem_cons.mp same
      intro styleAt before
      refine ih others (rule.restyle (region.matches rule.pattern text) styleAt) ?_
      unfold Rule.restyle
      split
      · exact Or.inr (congrArg some own)
      · exact before
  rcases either (fun _ => none) (Or.inl rfl) with none | styled
  · exact iff_of_true none fun styled => nomatch none.symm.trans styled
  · exact iff_of_false (fun none => nomatch none.symm.trans styled) fun differs => differs styled

section Standard

variable {text : Text} {region : Region} {i : Nat}

theorem declaredStyle_longStringRule :
    declaredStyle [longStringRule] text region i = some .string ↔
      region.Finds .longString text i := by
  have whole := fun m (_ : m ∈ region.matches .longString text) =>
    @Rule.target_of_whole longStringRule rfl m
  refine (Rule.restyle_eq_own_iff rfl whole).trans ?_
  simp [Region.Finds]

/-- No rule behind those for strings has their style. -/
theorem declaredStyle_standardRules_string :
    declaredStyle standardRules text region i = some .string ↔
      declaredStyle [longStringRule, stringRule] text region i = some .string :=
  @declaredStyle_append_iff_of_ne [longStringRule, stringRule] (commentRule :: wordRules) _
    (by decide) (by decide) _ _ _

/-- What is a string: what lies in a long string, or in a string that does not begin in one. -/
theorem declaredStyle_eq_string_iff :
    declaredStyle standardRules text region i = some .string ↔
      region.Finds .longString text i ∨
        ∃ m ∈ region.matches .string text, m.Holds i ∧ ¬ region.Finds .longString text m.start := by
  have strings := @Rule.restyle_eq_own_iff stringRule (region.matches .string text)
    (declaredStyle [longStringRule] text region) i rfl fun m _ => Rule.target_of_whole rfl m
  have free : ∀ j, declaredStyle [longStringRule] text region j = none ↔
      ¬ region.Finds .longString text j := fun j =>
    (declaredStyle_eq_none_iff (by decide) _ _ _).trans (not_congr declaredStyle_longStringRule)
  simp only [free] at strings
  refine declaredStyle_standardRules_string.trans (strings.trans ?_)
  refine (or_congr_left declaredStyle_longStringRule).trans ?_
  exact or_congr_right' fun outside => and_iff_right outside

/-- What is a comment: what is no string and lies in a comment that does not begin in one. -/
theorem declaredStyle_eq_comment_iff :
    declaredStyle standardRules text region i = some .comment ↔
      declaredStyle standardRules text region i ≠ some .string ∧
        ∃ m ∈ region.matches .comment text, m.Holds i ∧
          declaredStyle standardRules text region m.start ≠ some .string := by
  have whole : ∀ m ∈ region.matches .comment text,
      commentRule.target m = some (m.start, m.stop) := by
    intro m member
    obtain ⟨own, found, rfl⟩ := List.mem_map.mp member
    obtain ⟨k, hit, here, rfl, -⟩ := Pattern.hit_of_mem_matchesFrom found
    rw [Hit.shift_place]
    exact @Rule.target_comment commentRule rfl _ _ _ here _
  have comments := @Rule.restyle_eq_own_iff commentRule (region.matches .comment text)
    (declaredStyle [longStringRule, stringRule] text region) i rfl whole
  have free : ∀ j, declaredStyle [longStringRule, stringRule] text region j = none ↔
      declaredStyle standardRules text region j ≠ some .string := fun j =>
    (declaredStyle_eq_none_iff (by decide) _ _ _).trans
      (not_congr declaredStyle_standardRules_string).symm
  have notYet : declaredStyle [longStringRule, stringRule] text region i ≠ some .comment := by
    have same := @declaredStyle_append_iff_of_ne [] [longStringRule, stringRule] .comment
      (by decide) (by decide) text region i
    exact fun styled => nomatch same.mp styled
  simp only [free] at comments
  exact (@declaredStyle_append_iff_of_ne [longStringRule, stringRule, commentRule] wordRules _
    (by decide) (by decide) _ _ _).trans (comments.trans (or_iff_right notYet))

end Standard

/-! ## Whole texts -/

/-- Spans give an offset a style. -/
def Shows (spans : List Span) (i : Nat) (style : Style) : Prop :=
  ∃ span ∈ spans, span.Covers i style

instance (spans : List Span) (i : Nat) (style : Style) : Decidable (Shows spans i style) :=
  inferInstanceAs (Decidable (∃ span ∈ spans, span.style = style ∧ span.start ≤ i ∧ i < span.stop))

theorem Region.matches_whole (pattern : Pattern) (text : Text) :
    Region.matches ⟨0, text.length⟩ pattern text = pattern.matchesIn none text := by
  rw [Pattern.matches_eq_matchesFrom, before, body, List.take_zero, List.drop_zero, Nat.sub_zero,
    List.take_length]
  rfl

/-- A text is always highlighted. What is shown as a string lies in a long string, or in a string
that does not begin in one; what is shown as a comment is no string and lies in a comment that does
not begin in one. -/
theorem exists_classify_shows (text : Text) :
    ∃ spans, classify standardRules text 0 none = .ok spans ∧
      (∀ i, Shows spans i .string ↔
        (∃ m ∈ Pattern.longString.matchesIn none text, m.Holds i) ∨
          ∃ m ∈ Pattern.string.matchesIn none text, m.Holds i ∧
            ¬ ∃ long ∈ Pattern.longString.matchesIn none text, long.Holds m.start) ∧
      ∀ i, Shows spans i .comment ↔ ¬ Shows spans i .string ∧
        ∃ m ∈ Pattern.comment.matchesIn none text, m.Holds i ∧ ¬ Shows spans m.start .string := by
  rcases classify_eq_declared standardRules text 0 none with
    ⟨rule, member, vain, -⟩ | ⟨-, spans, done, shows⟩
  · exact nomatch (groupExists_standardRules rule member).symm.trans vain.1
  · have region : (Region.extend text 0 ((none : Option Int).getD text.length)).1 =
        ⟨0, text.length⟩ := Region.extend_whole text
    rw [region] at shows
    refine ⟨spans, done, fun i => ?_, fun i => ?_⟩
    · rw [Shows, shows, declaredStyle_eq_string_iff]
      simp only [Region.Finds, Region.matches_whole]
    · simp only [Shows, shows]
      rw [declaredStyle_eq_comment_iff, Region.matches_whole]

/-! ## Lines -/

/-- Before an offset, seen from it backwards. -/
theorem getElem?_reverse_take {text : Text} {p k : Nat} (inside : p ≤ text.length)
    (before : k < p) : (text.take p).reverse[p - 1 - k]? = text[k]? := by
  have size : (text.take p).length = p := List.length_take_of_le inside
  rw [List.getElem?_reverse (by omega), size, show p - 1 - (p - 1 - k) = k by omega,
    List.getElem?_take_of_lt before]

theorem ne_feed_of_lineStart_le {text : Text} {p k : Nat} (inside : p ≤ text.length)
    (low : lineStart text p ≤ k) (high : k < p) : text[k]? ≠ some '\n' := by
  intro feed
  rw [← getElem?_reverse_take inside high] at feed
  have near : p - 1 - k < runLength (· != '\n') (text.take p).reverse := by
    rw [lineStart, ← runLength] at low
    omega
  exact Bool.false_ne_true ((getElem?_runLength feed).1 near)

theorem isLineStart_lineStart {text : Text} {p : Nat} (inside : p ≤ text.length) :
    IsLineStart text (lineStart text p) := by
  have room := runLength_le (· != '\n') (text.take p).reverse
  rw [List.length_reverse, List.length_take_of_le inside] at room
  rw [lineStart, ← runLength]
  generalize size : runLength (· != '\n') (text.take p).reverse = n at room
  rcases Nat.lt_or_eq_of_le room with short | rfl
  · right
    refine ⟨p - n - 1, by omega, ?_⟩
    have bound : p - n - 1 < text.length := by omega
    have here := getElem?_reverse_take inside (show p - n - 1 < p by omega)
    rw [List.getElem?_eq_getElem bound, show p - 1 - (p - n - 1) = n by omega] at here
    have stops := (@getElem?_runLength (· != '\n') _ _ _ here).2 size.symm
    rw [List.getElem?_eq_getElem bound]
    simpa using stops
  · exact Or.inl (Nat.sub_self _)

/-- The places of a line have one end of the line. -/
theorem lineEnd_eq_of_le {text : Text} {p q : Nat} (low : p ≤ q) (high : q ≤ lineEnd text p)
    (inside : q ≤ text.length) : lineEnd text q = lineEnd text p := by
  have pInside : p ≤ text.length := Nat.le_trans low inside
  apply Nat.le_antisymm
  · exact lineEnd_le_of_isLineEnd high (isLineEnd_lineEnd pInside)
  · exact lineEnd_le_of_isLineEnd (Nat.le_trans low (le_lineEnd text q)) (isLineEnd_lineEnd inside)

/-! ## Comments of a line -/

/-- A sign at the start of a line or behind a blank, which may begin a comment. -/
def IsSign (text : Text) (i : Nat) : Prop :=
  text[i]? = some '#' ∧ afterBlank (Pattern.charBefore none text i) = true

instance (text : Text) (i : Nat) : Decidable (IsSign text i) :=
  inferInstanceAs (Decidable (_ ∧ _))

/-- The first sign on the line of an offset, at the offset or before it. -/
structure IsFirstSign (text : Text) (i first : Nat) : Prop where
  sign : IsSign text first
  onLine : lineStart text i ≤ first
  le : first ≤ i
  least : ∀ k, lineStart text i ≤ k → IsSign text k → first ≤ k

namespace Pattern

/-- A comment begins with a sign and runs to the end of the line. -/
theorem sign_of_mem_comments {text : Text} {m : Match} (member : m ∈ comment.matchesIn none text) :
    IsSign text m.start ∧ m.stop = lineEnd text m.start := by
  obtain ⟨hit, here, placed⟩ := (isScan_matchesIn (consumes_comment rfl) none text).hits m member
  obtain ⟨apart, sign, rfl⟩ := hit_comment rfl here
  rw [List.getElem?_drop, Nat.add_zero] at sign
  exact ⟨⟨sign, apart⟩, congrArg Match.stop placed⟩

/-- Every sign lies in a comment. -/
theorem exists_comment_of_sign {text : Text} {i : Nat} (sign : IsSign text i) :
    ∃ m ∈ comment.matchesIn none text, m.Holds i := by
  have here : comment.hit (charBefore none text i) (text.drop i) =
      some (.grouped (runLength (· != '\n') (text.drop i))) := by
    rw [drop_eq_cons_of_getElem? sign.1]
    simp [Pattern.hit, sign.2, startsWith]
  exact (isScan_matchesIn (consumes_comment rfl) none text).covers i _ here

/-- A comment that reaches into a line begins on it. -/
theorem lineStart_le_of_holds {text : Text} {m : Match} (member : m ∈ comment.matchesIn none text)
    {i k : Nat} (inside : i ≤ text.length) (holds : m.Holds k) (low : lineStart text i ≤ k) :
    lineStart text i ≤ m.start := by
  have stop := (sign_of_mem_comments member).2
  obtain ⟨-, high⟩ := holds
  rcases isLineStart_lineStart inside with first | ⟨before, next, feed⟩
  · omega
  · by_contra early
    exact ne_feed_of_lt_lineEnd (show m.start ≤ before by omega) (by omega) feed

/-- A line with a sign holds one comment: it begins with the first sign and takes the rest of the
line. -/
theorem exists_comment_of_line {text : Text} {i : Nat} (sign : IsSign text i) :
    ∃ m ∈ comment.matchesIn none text, m.Holds i ∧ IsFirstSign text i m.start ∧
      m.stop = lineEnd text i ∧
      ∀ other ∈ comment.matchesIn none text, ∀ k, lineStart text i ≤ k → k < lineEnd text i →
        other.Holds k → other = m := by
  have scan := isScan_matchesIn (consumes_comment rfl) none text
  have inText := (List.getElem?_eq_some_iff.mp sign.1).1
  have onLine := lineStart_le text i
  obtain ⟨m, member, low, high⟩ := exists_comment_of_sign sign
  obtain ⟨first, stop⟩ := sign_of_mem_comments member
  have ends : m.stop = lineEnd text i :=
    stop.trans (lineEnd_eq_of_le low (by omega) (Nat.le_of_lt inText)).symm
  have only : ∀ other ∈ comment.matchesIn none text, ∀ k, lineStart text i ≤ k →
      k < lineEnd text i → other.Holds k → other = m := by
    intro other also k kLow kHigh holds
    rcases scan.apart also member with same | before | behind
    · exact same
    · -- a comment before this one would end with a line feed on the line
      have otherStop := (sign_of_mem_comments also).2
      have otherInside := (Pattern.within_of_mem_matchesIn also).ordered
      rcases isLineEnd_lineEnd (show other.start ≤ text.length by omega) with feed | atEnd
      · rw [← otherStop] at feed
        rcases Nat.lt_or_eq_of_le (Nat.le_trans before low) with early | atSign
        · exact absurd feed (ne_feed_of_lineStart_le (Nat.le_of_lt inText)
            (Nat.le_trans kLow (Nat.le_of_lt holds.2)) early)
        · rw [atSign, sign.1] at feed
          cases feed
      · omega
    · have otherLow := holds.1
      omega
  refine ⟨m, member, ⟨low, high⟩, ⟨first, ?_, low, fun k kLow kSign => ?_⟩, ends, only⟩
  · exact lineStart_le_of_holds member (Nat.le_of_lt inText) ⟨low, high⟩ onLine
  · by_contra earlier
    obtain ⟨other, also, holds⟩ := exists_comment_of_sign kSign
    have same := only other also k kLow (by omega) holds
    have otherLow := holds.1
    rw [same] at otherLow
    omega

end Pattern

/-- A comment at a sign that stands in no string. It is shown to the end of the line, up to strings
in it, exactly if the first sign of the line does not stand in a string either. If that one does, no
comment is shown on the line. -/
theorem comment_to_lineEnd_iff {text : Text} {i : Nat} (sign : IsSign text i) :
    ∃ spans first, classify standardRules text 0 none = .ok spans ∧ IsFirstSign text i first ∧
      (¬ Shows spans i .string →
        ((∀ k, i ≤ k → k < lineEnd text i → Shows spans k .comment ∨ Shows spans k .string) ↔
          ¬ Shows spans first .string)) ∧
      (Shows spans first .string →
        ∀ k, lineStart text i ≤ k → k < lineEnd text i → ¬ Shows spans k .comment) := by
  obtain ⟨spans, done, -, comments⟩ := exists_classify_shows text
  obtain ⟨m, member, ⟨-, here⟩, isFirst, ends, only⟩ := Pattern.exists_comment_of_line sign
  rw [ends] at here
  have lost : Shows spans m.start .string →
      ∀ k, lineStart text i ≤ k → k < lineEnd text i → ¬ Shows spans k .comment := by
    intro inString k low high shown
    obtain ⟨-, other, also, holds, outside⟩ := (comments k).mp shown
    rw [only other also k low high holds] at outside
    exact outside inString
  refine ⟨spans, m.start, done, isFirst, fun outside => ⟨fun all inString => ?_, ?_⟩, lost⟩
  · rcases all i (Nat.le_refl i) here with shown | string
    · exact lost inString i (lineStart_le text i) here shown
    · exact outside string
  · intro free k low high
    by_cases string : Shows spans k .string
    · exact Or.inr string
    · have holds : m.Holds k := ⟨Nat.le_trans isFirst.le low, ends ▸ high⟩
      exact Or.inl ((comments k).mpr ⟨string, m, member, holds, free⟩)

/-- A second sign on the line, behind a string in the comment. -/
theorem comment_to_lineEnd_iff_within :
    let text := "# a \"b\" # c".toList
    IsSign text 8 ∧ ∃ spans, classify standardRules text 0 none = .ok spans ∧
      ∀ k, 8 ≤ k → k < lineEnd text 8 → Shows spans k .comment ∨ Shows spans k .string := by
  intro text
  have sign : IsSign text 8 := by decide
  have painted : (classify standardRules text 0 none).toOption =
      some [⟨0, 4, .comment⟩, ⟨4, 7, .string⟩, ⟨7, 11, .comment⟩] := by decide +kernel
  obtain ⟨spans, first, done, isFirst, shown, -⟩ := comment_to_lineEnd_iff sign
  have atStart : first = 0 := Nat.le_zero.mp (isFirst.least 0 (by decide) (by decide))
  subst atStart
  rw [done] at painted
  cases painted
  exact ⟨sign, _, done, (shown (by decide)).mpr (by decide)⟩

/-- Behind a string with a sign in it a comment is not shown. -/
theorem comment_behind_string_not_shown :
    let text := "\"a # b\" # c".toList
    IsSign text 8 ∧ ∃ spans, (classify standardRules text 0 none).toOption = some spans ∧
      ¬ Shows spans 8 .string ∧
      ¬ ∀ k, 8 ≤ k → k < lineEnd text 8 → Shows spans k .comment ∨ Shows spans k .string := by
  intro text
  refine ⟨by decide, [⟨0, 7, .string⟩], by decide +kernel, by decide, fun all => ?_⟩
  exact absurd (all 8 (by decide) (by decide)) (by decide)

end TurtleEdit
