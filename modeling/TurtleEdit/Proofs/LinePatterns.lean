import Mathlib.Computability.Language
import TurtleEdit.Proofs.Shapes

/-!
Patterns of lines as languages.

A pattern is the set of texts that it matches, put together from classes of characters by sequence,
choice and repetition. A line matches a pattern if it starts with a match that reaches its end, and
the end of a line is the end of the text or the place before a last line feed. For a pattern that
ends with blanks the two ends come to the same, since a line feed is a blank.

What such a pattern asks of the end of a line is told by the characters of the line that are not
blank: marks with blanks between and behind them stand at the end of a line if and only if they
are the last characters of the line without its blanks.
-/

open scoped Computability

namespace TurtleEdit

/-! ## Classes of characters -/

/-- The texts of one character of a class. -/
def oneOf (inClass : Char → Bool) : Language Char := {word | ∃ c, inClass c = true ∧ word = [c]}

/-- The text of one character. -/
def mark (c : Char) : Language Char := {[c]}

/-- Any number of blanks. -/
def gap : Language Char := (oneOf isBlank)∗

theorem mem_mark_mul {c : Char} {pattern : Language Char} {word : Text} :
    word ∈ mark c * pattern ↔ ∃ rest ∈ pattern, word = c :: rest := by
  rw [Language.mem_mul]
  constructor
  · rintro ⟨first, rfl, rest, inPattern, rfl⟩
    exact ⟨rest, inPattern, rfl⟩
  · rintro ⟨rest, inPattern, rfl⟩
    exact ⟨[c], rfl, rest, inPattern, rfl⟩

theorem mem_oneOf_mul {inClass : Char → Bool} {pattern : Language Char} {word : Text} :
    word ∈ oneOf inClass * pattern ↔
      ∃ c, ∃ rest ∈ pattern, inClass c = true ∧ word = c :: rest := by
  rw [Language.mem_mul]
  constructor
  · rintro ⟨first, ⟨c, isIn, rfl⟩, rest, inPattern, rfl⟩
    exact ⟨c, rest, inPattern, isIn, rfl⟩
  · rintro ⟨c, rest, inPattern, isIn, rfl⟩
    exact ⟨[c], ⟨c, isIn, rfl⟩, rest, inPattern, rfl⟩

theorem cons_mem_mark_mul {c d : Char} {pattern : Language Char} {rest : Text} :
    c :: rest ∈ mark d * pattern ↔ c = d ∧ rest ∈ pattern := by
  rw [mem_mark_mul]
  constructor
  · rintro ⟨tail, inPattern, same⟩
    obtain ⟨rfl, rfl⟩ := List.cons.inj same
    exact ⟨rfl, inPattern⟩
  · rintro ⟨rfl, inPattern⟩
    exact ⟨rest, inPattern, rfl⟩

theorem cons_mem_oneOf_mul {c : Char} {inClass : Char → Bool} {pattern : Language Char}
    {rest : Text} : c :: rest ∈ oneOf inClass * pattern ↔ inClass c = true ∧ rest ∈ pattern := by
  rw [mem_oneOf_mul]
  constructor
  · rintro ⟨d, tail, inPattern, isIn, same⟩
    obtain ⟨rfl, rfl⟩ := List.cons.inj same
    exact ⟨isIn, inPattern⟩
  · rintro ⟨isIn, inPattern⟩
    exact ⟨c, rest, inPattern, isIn, rfl⟩

/-- A class repeated is the texts of its characters. -/
theorem mem_kstar_oneOf {inClass : Char → Bool} {word : Text} :
    word ∈ (oneOf inClass)∗ ↔ ∀ c ∈ word, inClass c = true := by
  constructor
  · rintro ⟨parts, rfl, single⟩ c member
    obtain ⟨part, inParts, inPart⟩ := List.mem_flatten.mp member
    obtain ⟨d, isIn, rfl⟩ := single part inParts
    rwa [List.mem_singleton.mp inPart]
  · intro all
    refine ⟨word.map fun c => [c], ?_, fun part member => ?_⟩
    · rw [← List.flatMap_def, List.flatMap_singleton']
    · obtain ⟨c, inWord, rfl⟩ := List.mem_map.mp member
      exact ⟨c, all c inWord, rfl⟩

theorem mem_gap {word : Text} : word ∈ gap ↔ Blanks word := mem_kstar_oneOf

/-! ## Lines -/

/-- The line starts with a match that reaches its end, where a last line feed may follow. -/
def MatchesLine (pattern : Language Char) (line : Text) : Prop :=
  ∃ found rest, line = found ++ rest ∧ found ∈ pattern ∧ (rest = [] ∨ rest = ['\n'])

/-- Somewhere in the line a match begins that reaches its end. -/
def FoundInLine (pattern : Language Char) (line : Text) : Prop :=
  ∃ before after, line = before ++ after ∧ MatchesLine pattern after

/-- A pattern that ends with blanks takes the last line feed with them. -/
theorem matchesLine_mul_gap {pattern : Language Char} {line : Text} :
    MatchesLine (pattern * gap) line ↔ line ∈ pattern * gap := by
  constructor
  · rintro ⟨found, rest, rfl, matched, ends⟩
    obtain ⟨first, inPattern, blanks, inGap, rfl⟩ := Language.mem_mul.mp matched
    refine Language.mem_mul.mpr ⟨first, inPattern, blanks ++ rest, ?_, by rw [List.append_assoc]⟩
    have restBlank : Blanks rest := by
      rcases ends with rfl | rfl
      · exact fun _ member => nomatch member
      · exact List.forall_mem_singleton.mpr (by decide)
    exact mem_gap.mpr (List.forall_mem_append.mpr ⟨mem_gap.mp inGap, restBlank⟩)
  · intro member
    exact ⟨line, [], (List.append_nil _).symm, member, Or.inl rfl⟩

theorem foundInLine_mul_gap {pattern : Language Char} {line : Text} :
    FoundInLine (pattern * gap) line ↔ line ∈ ⊤ * (pattern * gap) := by
  rw [FoundInLine, Language.mem_mul]
  constructor
  · rintro ⟨before, after, rfl, matched⟩
    exact ⟨before, trivial, after, matchesLine_mul_gap.mp matched, rfl⟩
  · rintro ⟨before, -, after, member, rfl⟩
    exact ⟨before, after, rfl, matchesLine_mul_gap.mpr member⟩

/-! ## Blanks at the ends -/

/-- The blanks at the start of a text are what is left out of it. -/
theorem exists_dropBlanks (text : Text) :
    ∃ blanks, Blanks blanks ∧ text = blanks ++ dropBlanks text :=
  ⟨text.takeWhile isBlank, List.all_eq_true.mp List.all_takeWhile,
    List.takeWhile_append_dropWhile.symm⟩

theorem isBlank_of_dropBlanks {text rest : Text} {c : Char} (kept : dropBlanks text = c :: rest) :
    isBlank c = false := by
  have first := List.head?_dropWhile_not isBlank text
  rw [← dropBlanks, kept] at first
  simpa using first

/-- A line is its trimmed part between blanks. -/
theorem exists_trimBlanks (line : Text) :
    ∃ left right, Blanks left ∧ Blanks right ∧ line = left ++ trimBlanks line ++ right := by
  obtain ⟨left, leftBlank, split⟩ := exists_dropBlanks line
  obtain ⟨right, rightBlank, inner⟩ := exists_dropBlanks (dropBlanks line).reverse
  refine ⟨left, right.reverse, leftBlank, rightBlank.reverse, ?_⟩
  rw [trimBlanks, List.append_assoc, ← List.reverse_append, ← inner, List.reverse_reverse]
  exact split

/-- A mark before the last blanks of a line is its last character that is not blank. -/
theorem dropBlanks_reverse_append {blanks : Text} (allBlank : Blanks blanks) {c : Char}
    (solid : isBlank c = false) (before : Text) :
    dropBlanks (before ++ c :: blanks).reverse = c :: before.reverse := by
  rw [List.reverse_append, List.reverse_cons, List.append_assoc,
    allBlank.reverse.dropBlanks_append]
  exact List.dropWhile_cons_of_neg (by rw [solid]; exact Bool.false_ne_true)

/-- The last character of a line that is not blank stands before its last blanks. -/
theorem exists_of_dropBlanks_reverse {line before : Text} {c : Char}
    (kept : dropBlanks line.reverse = c :: before) :
    ∃ blanks, Blanks blanks ∧ line = before.reverse ++ c :: blanks := by
  obtain ⟨blanks, allBlank, split⟩ := exists_dropBlanks line.reverse
  refine ⟨blanks.reverse, allBlank.reverse, ?_⟩
  rw [kept, List.reverse_eq_iff] at split
  rw [split, List.reverse_append, List.reverse_cons, List.append_assoc, List.singleton_append]

/-- A pattern that ends with a mark and blanks, read from the end of the line. -/
theorem mem_mul_mark_gap {pattern : Language Char} {c : Char} (solid : isBlank c = false)
    {line : Text} :
    line ∈ pattern * (mark c * gap) ↔
      ∃ before, dropBlanks line.reverse = c :: before ∧ before.reverse ∈ pattern := by
  rw [Language.mem_mul]
  constructor
  · rintro ⟨before, inPattern, ending, isEnding, rfl⟩
    obtain ⟨blanks, inGap, rfl⟩ := mem_mark_mul.mp isEnding
    refine ⟨before.reverse, dropBlanks_reverse_append (mem_gap.mp inGap) solid before, ?_⟩
    rwa [List.reverse_reverse]
  · rintro ⟨before, kept, inPattern⟩
    obtain ⟨blanks, allBlank, rfl⟩ := exists_of_dropBlanks_reverse kept
    have ending : c :: blanks ∈ mark c * gap :=
      mem_mark_mul.mpr ⟨blanks, mem_gap.mpr allBlank, rfl⟩
    exact ⟨before.reverse, inPattern, c :: blanks, ending, rfl⟩

/-! ## Marks at the end of a line -/

/-- The characters of a line that are not blank. -/
def solidPart (line : Text) : Text := line.filter fun c => !isBlank c

/-- Marks in this order, with blanks behind each of them. -/
def spaced (marks : Text) : Language Char := (marks.map fun c => mark c * gap).prod

theorem spaced_append_singleton (marks : Text) (c : Char) :
    spaced (marks ++ [c]) = spaced marks * (mark c * gap) := by
  rw [spaced, List.map_append, List.prod_append, ← spaced]
  simp

/-- Marks with blanks behind them, read from the end of the line. -/
theorem mem_mul_spaced_append_singleton {pattern : Language Char} {marks : Text} {c : Char}
    (solid : isBlank c = false) {line : Text} :
    line ∈ pattern * spaced (marks ++ [c]) ↔
      ∃ before, dropBlanks line.reverse = c :: before ∧
        before.reverse ∈ pattern * spaced marks := by
  rw [spaced_append_singleton, ← mul_assoc, mem_mul_mark_gap solid]

theorem solidPart_of_blanks {blanks : Text} (allBlank : Blanks blanks) : solidPart blanks = [] :=
  List.filter_eq_nil_iff.mpr fun c member => by simp [allBlank c member]

theorem solidPart_append (left right : Text) :
    solidPart (left ++ right) = solidPart left ++ solidPart right :=
  List.filter_append ..

theorem solidPart_cons {c : Char} (solid : isBlank c = false) (rest : Text) :
    solidPart (c :: rest) = c :: solidPart rest :=
  List.filter_cons_of_pos (by rw [solid]; rfl)

/-- The last character that is not blank, and what comes before it. -/
theorem solidPart_of_dropBlanks_reverse {line before : Text} {c : Char}
    (kept : dropBlanks line.reverse = c :: before) :
    solidPart line = solidPart before.reverse ++ [c] := by
  have solid := isBlank_of_dropBlanks kept
  obtain ⟨blanks, allBlank, rfl⟩ := exists_of_dropBlanks_reverse kept
  rw [solidPart_append, solidPart_cons solid, solidPart_of_blanks allBlank]

theorem solidPart_of_dropBlanks_nil {line : Text} (gone : dropBlanks line.reverse = []) :
    solidPart line = [] := by
  obtain ⟨blanks, allBlank, split⟩ := exists_dropBlanks line.reverse
  rw [gone, List.append_nil, List.reverse_eq_iff] at split
  rw [split, solidPart_of_blanks allBlank.reverse]

/-- Marks with blanks between them end a line, behind anything that the pattern allows, if they are
the last characters of the line without its blanks. -/
theorem mem_mul_spaced_iff {pattern : Language Char} {marks line : Text}
    (solid : ∀ c ∈ marks, isBlank c = false)
    (allowed : ∀ before, before <+: line → before ∈ pattern) :
    line ∈ pattern * spaced marks ↔ marks <:+ solidPart line := by
  induction marks using List.reverseRecOn generalizing line with
  | nil =>
    have whole := allowed line (List.prefix_refl _)
    simp [spaced, whole]
  | append_singleton marks c ih =>
    obtain ⟨solidMarks, solidLast⟩ := List.forall_mem_append.mp solid
    rw [mem_mul_spaced_append_singleton (solidLast c List.mem_cons_self)]
    cases kept : dropBlanks line.reverse with
    | nil =>
      rw [solidPart_of_dropBlanks_nil kept]
      simp
    | cons d before =>
      have shorter : ∀ start, start <+: before.reverse → start ∈ pattern := by
        intro start isStart
        obtain ⟨blanks, -, rfl⟩ := exists_of_dropBlanks_reverse kept
        exact allowed start (isStart.trans (List.prefix_append _ _))
      rw [solidPart_of_dropBlanks_reverse kept]
      constructor
      · rintro ⟨rest, same, matched⟩
        obtain ⟨rfl, rfl⟩ := List.cons.inj same
        obtain ⟨front, rest⟩ := (ih solidMarks shorter).mp matched
        exact ⟨front, by rw [← rest, List.append_assoc]⟩
      · rintro ⟨front, same⟩
        rw [← List.append_assoc] at same
        obtain ⟨rest, last⟩ := List.append_inj' same rfl
        obtain ⟨rfl, -⟩ := List.cons.inj last
        exact ⟨before, rfl, (ih solidMarks shorter).mpr ⟨front, rest⟩⟩

end TurtleEdit
