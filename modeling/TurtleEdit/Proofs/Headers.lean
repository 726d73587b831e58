import TurtleEdit.Proofs.LinePatterns
import TurtleEdit.Proofs.Resources

/-!
Headers are the lines of one pattern, and of one grammar.

The pattern of a header is a resource between blanks: an iri in angle brackets, or a name. The
runs of a local part are read in one pass over its characters, which is how the pattern and the
split at full stops come together. No blank stands in a resource, so that a line matches the pattern
in one way at most: its resource is the trimmed line.
-/

open scoped Computability

namespace TurtleEdit

/-! ## Patterns -/

/-- A character that a namespace may begin with. -/
def beginsNamespace (c : Char) : Bool := c.isAlpha || c == '_'

/-- One name character or more. -/
def nameRun : Language Char := oneOf isNameChar * (oneOf isNameChar)∗

/-- The part of a name before its colon, which may be empty. -/
def namespacePattern : Language Char := 1 + oneOf beginsNamespace * (oneOf isNameChar)∗

/-- The part of a name after its colon, which may be empty. -/
def localPattern : Language Char := 1 + nameRun * (mark '.' * nameRun)∗

/-- A namespace, a colon and a local part. -/
def namePattern : Language Char := namespacePattern * (mark ':' * localPattern)

/-- An iri in angle brackets. -/
def iriPattern : Language Char := mark '<' * ((oneOf isIriChar)∗ * mark '>')

/-- A resource between blanks. -/
def headerPattern : Language Char := gap * (iriPattern + namePattern) * gap

/-! ## Runs -/

section Runs

variable (sep : Char) (inClass : Char → Bool)

/-- Runs that are divided by a separator, the first of which may be empty. -/
def laterRuns : Language Char :=
  (oneOf inClass)∗ * (mark sep * (oneOf inClass * (oneOf inClass)∗))∗

/-- Such runs end, begin anew behind a separator, or go on with a character of the class. -/
theorem laterRuns_eq : laterRuns sep inClass =
    1 + mark sep * (oneOf inClass * laterRuns sep inClass) +
      oneOf inClass * laterRuns sep inClass := by
  have divided := Language.one_add_self_mul_kstar_eq_kstar
    (mark sep * (oneOf inClass * (oneOf inClass)∗))
  calc laterRuns sep inClass
      = (1 + oneOf inClass * (oneOf inClass)∗) *
          (mark sep * (oneOf inClass * (oneOf inClass)∗))∗ := by
        rw [Language.one_add_self_mul_kstar_eq_kstar, laterRuns]
    _ = (mark sep * (oneOf inClass * (oneOf inClass)∗))∗ +
          oneOf inClass * laterRuns sep inClass := by
        rw [add_mul, one_mul, laterRuns, mul_assoc]
    _ = 1 + mark sep * (oneOf inClass * laterRuns sep inClass) +
          oneOf inClass * laterRuns sep inClass := by
        rw [← divided, laterRuns]
        simp only [mul_assoc]

/-- Runs are read character by character. -/
theorem mem_runs_iff (apart : inClass sep = false) (text : Text) :
    (text ∈ oneOf inClass * laterRuns sep inClass ↔ runsFrom sep inClass false text = true) ∧
      (text ∈ laterRuns sep inClass ↔ runsFrom sep inClass true text = true) := by
  induction text with
  | nil =>
    constructor
    · rw [mem_oneOf_mul, runsFrom]
      simp
    · rw [laterRuns_eq, Language.mem_add, Language.mem_add, Language.mem_one, runsFrom]
      simp
  | cons c rest ih =>
    obtain ⟨anew, onward⟩ := ih
    have first : c :: rest ∈ oneOf inClass * laterRuns sep inClass ↔
        inClass c = true ∧ runsFrom sep inClass true rest = true := by
      rw [cons_mem_oneOf_mul, onward]
    have later : c :: rest ∈ laterRuns sep inClass ↔
        c = sep ∧ runsFrom sep inClass false rest = true ∨
          inClass c = true ∧ runsFrom sep inClass true rest = true := by
      rw [laterRuns_eq, Language.mem_add, Language.mem_add, Language.mem_one, cons_mem_mark_mul,
        anew, first]
      simp
    rw [first, later, runsFrom, runsFrom]
    by_cases divides : c = sep
    · simp [divides, apart]
    · simp [divides]

end Runs

/-! ## Parts of a name -/

theorem isHeaderNamespace_iff_mem (space : Text) :
    isHeaderNamespace space = true ↔ space ∈ namespacePattern := by
  rw [namespacePattern, Language.mem_add, Language.mem_one]
  cases space with
  | nil => simp [isHeaderNamespace]
  | cons c rest =>
    rw [isHeaderNamespace, cons_mem_oneOf_mul, mem_kstar_oneOf, Bool.and_eq_true, List.all_eq_true,
      ← beginsNamespace]
    simp

theorem isLocalPart_iff_mem (part : Text) : isLocalPart part = true ↔ part ∈ localPattern := by
  have runs : nameRun * (mark '.' * nameRun)∗ = oneOf isNameChar * laterRuns '.' isNameChar := by
    rw [laterRuns, nameRun, mul_assoc]
  rw [localPattern, runs, Language.mem_add, Language.mem_one,
    (mem_runs_iff '.' isNameChar (by decide) part).1, isLocalPart_eq_runsFrom, Bool.or_eq_true,
    List.isEmpty_iff]

/-- The characters of a header's namespace are name characters. -/
theorem isNameChar_of_mem_headerNamespace {space : Text} (isSpace : isHeaderNamespace space = true)
    {c : Char} (member : c ∈ space) : isNameChar c = true := by
  cases space with
  | nil => cases member
  | cons d rest =>
    rw [isHeaderNamespace, Bool.and_eq_true, Bool.or_eq_true, beq_iff_eq] at isSpace
    rcases List.mem_cons.mp member with rfl | later
    · rcases isSpace.1 with letter | rfl
      · have alphanum : c.isAlphanum = true := by rw [Char.isAlphanum, letter, Bool.true_or]
        rw [isNameChar, isWord_of_isAlphanum alphanum (toNat_lt_of_isAlphanum alphanum),
          Bool.true_or]
      · decide
    · exact List.all_eq_true.mp isSpace.2 c later

/-- A name is a namespace and a local part around a colon. -/
theorem isHeaderName_iff (text : Text) :
    isHeaderName text = true ↔ ∃ space part, text = space ++ ':' :: part ∧
      isHeaderNamespace space = true ∧ isLocalPart part = true := by
  constructor
  · intro isName
    unfold isHeaderName at isName
    split at isName
    · next colon part ends =>
      have first := List.head?_dropWhile_not (· != ':') text
      rw [ends] at first
      obtain rfl : colon = ':' := by simpa using first
      have split : text.takeWhile (· != ':') ++ text.dropWhile (· != ':') = text :=
        List.takeWhile_append_dropWhile
      rw [ends] at split
      exact ⟨_, part, split.symm, (Bool.and_eq_true _ _).mp isName⟩
    · cases isName
  · rintro ⟨space, part, rfl, isSpace, isPart⟩
    have inSpace : ∀ c ∈ space, (c != ':') = true := by
      intro c member
      rw [bne_iff_ne]
      rintro rfl
      exact absurd (isNameChar_of_mem_headerNamespace isSpace member) (by decide)
    rw [isHeaderName_append inSpace, isSpace, isPart]
    rfl

theorem isHeaderName_iff_mem (text : Text) : isHeaderName text = true ↔ text ∈ namePattern := by
  rw [isHeaderName_iff, namePattern, Language.mem_mul]
  constructor
  · rintro ⟨space, part, rfl, isSpace, isPart⟩
    exact ⟨space, (isHeaderNamespace_iff_mem space).mp isSpace, ':' :: part,
      cons_mem_mark_mul.mpr ⟨rfl, (isLocalPart_iff_mem part).mp isPart⟩, rfl⟩
  · rintro ⟨space, isSpace, ending, isEnding, rfl⟩
    obtain ⟨part, isPart, rfl⟩ := mem_mark_mul.mp isEnding
    exact ⟨space, part, rfl, (isHeaderNamespace_iff_mem space).mpr isSpace,
      (isLocalPart_iff_mem part).mpr isPart⟩

/-! ## Iris -/

/-- An iri stands between angle brackets. -/
theorem isIriRef_iff (text : Text) :
    isIriRef text = true ↔ ∃ iri, text = '<' :: (iri ++ ['>']) ∧ iri.all isIriChar = true := by
  constructor
  · intro isIri
    unfold isIriRef at isIri
    split at isIri
    · next rest =>
      split at isIri
      · next inner ends =>
        rw [List.reverse_eq_iff, List.reverse_cons] at ends
        exact ⟨inner.reverse, by rw [ends], by rw [List.all_reverse, isIri]⟩
      · cases isIri
    · cases isIri
  · rintro ⟨iri, rfl, inIri⟩
    exact isIriRef_iri inIri

theorem isIriRef_iff_mem (text : Text) : isIriRef text = true ↔ text ∈ iriPattern := by
  rw [isIriRef_iff, iriPattern, mem_mark_mul]
  constructor
  · rintro ⟨iri, rfl, inIri⟩
    exact ⟨iri ++ ['>'], Language.append_mem_mul
      (mem_kstar_oneOf.mpr (List.all_eq_true.mp inIri)) rfl, rfl⟩
  · rintro ⟨rest, inRest, rfl⟩
    obtain ⟨iri, inIri, closing, rfl, rfl⟩ := Language.mem_mul.mp inRest
    exact ⟨iri, rfl, List.all_eq_true.mpr (mem_kstar_oneOf.mp inIri)⟩

/-! ## Headers -/

/-- No blank stands in a resource. -/
theorem isBlank_of_mem_resource {text : Text}
    (isResource : (isIriRef text || isHeaderName text) = true) :
    ∀ c ∈ text, isBlank c = false := by
  rw [Bool.or_eq_true, isIriRef_iff, isHeaderName_iff] at isResource
  rcases isResource with ⟨iri, rfl, inIri⟩ | ⟨space, part, rfl, isSpace, isPart⟩
  · exact (IsResource.iri inIri).solid
  · refine isBlank_of_named (List.forall_mem_append.mpr ⟨?_, List.forall_mem_cons.mpr ⟨rfl, ?_⟩⟩)
    · intro c member
      exact endsName_of_isNamespaceChar
        (isNamespaceChar_of_isNameChar (isNameChar_of_mem_headerNamespace isSpace member))
    · intro c member
      exact endsName_of_isNamespaceChar (isNamespaceChar_of_mem_localPart isPart member)

/-- A line is a header if it matches the pattern. -/
theorem isHeader_iff_matchesLine (line : Text) :
    isHeader line = true ↔ MatchesLine headerPattern line := by
  have resource : ∀ text, text ∈ iriPattern + namePattern ↔
      (isIriRef text || isHeaderName text) = true := by
    intro text
    rw [Language.mem_add, Bool.or_eq_true, isIriRef_iff_mem, isHeaderName_iff_mem]
  rw [headerPattern, matchesLine_mul_gap, Language.mem_mul]
  constructor
  · intro header
    obtain ⟨left, right, leftBlank, rightBlank, split⟩ := exists_trimBlanks line
    exact ⟨left ++ trimBlanks line,
      Language.append_mem_mul (mem_gap.mpr leftBlank) ((resource _).mpr header),
      right, mem_gap.mpr rightBlank, split.symm⟩
  · rintro ⟨front, isFront, right, inRight, rfl⟩
    obtain ⟨left, inLeft, inner, isInner, rfl⟩ := Language.mem_mul.mp isFront
    have isResource := (resource inner).mp isInner
    rw [isHeader, (mem_gap.mp inRight).trimBlanks_append_right,
      (mem_gap.mp inLeft).trimBlanks_append,
      trimBlanks_of_solid (isBlank_of_mem_resource isResource)]
    exact isResource

/-! ## The grammar -/

theorem isNameChar_iff {c : Char} : isNameChar c = true ↔ isWord c = true ∨ c = '-' := by
  rw [isNameChar, Bool.or_eq_true, beq_iff_eq]

theorem isIriChar_iff {c : Char} :
    isIriChar c = true ↔ c ≠ '<' ∧ c ≠ '>' ∧ isBlank c = false := by
  rw [isIriChar, Bool.and_eq_true, Bool.and_eq_true, bne_iff_ne, bne_iff_ne, Bool.not_eq_true',
    and_assoc]

theorem isHeaderNamespace_iff_chars {space : Text} :
    isHeaderNamespace space = true ↔
      space = [] ∨ ∃ first rest, space = first :: rest ∧ (first.isAlpha = true ∨ first = '_') ∧
        ∀ c ∈ rest, isWord c = true ∨ c = '-' := by
  cases space with
  | nil => simp [isHeaderNamespace]
  | cons first rest =>
    rw [isHeaderNamespace, Bool.and_eq_true, Bool.or_eq_true, beq_iff_eq, List.all_eq_true]
    simp only [isNameChar_iff, reduceCtorEq, false_or, List.cons.injEq]
    constructor
    · intro isSpace
      exact ⟨first, rest, ⟨rfl, rfl⟩, isSpace⟩
    · rintro ⟨_, _, ⟨rfl, rfl⟩, isSpace⟩
      exact isSpace

theorem isLocalPart_iff_pieces {part : Text} :
    isLocalPart part = true ↔
      part = [] ∨ ∀ piece ∈ splitAt '.' part, piece ≠ [] ∧
        ∀ c ∈ piece, isWord c = true ∨ c = '-' := by
  rw [isLocalPart, Bool.or_eq_true, List.isEmpty_iff, List.all_eq_true]
  simp only [Bool.and_eq_true, Bool.not_eq_true', List.isEmpty_eq_false_iff, List.all_eq_true,
    isNameChar_iff, ne_eq]

/-- A name has one colon. -/
theorem count_colon_of_name {space part : Text} (isSpace : isHeaderNamespace space = true)
    (isPart : isLocalPart part = true) : (space ++ ':' :: part).count ':' = 1 := by
  have before : ':' ∉ space := fun member =>
    absurd (isNameChar_of_mem_headerNamespace isSpace member) (by decide)
  have after : ':' ∉ part := fun member =>
    absurd (isNamespaceChar_of_mem_localPart isPart member) (by decide)
  rw [List.count_append, List.count_cons_self, List.count_eq_zero.mpr before,
    List.count_eq_zero.mpr after]

/-- A line is a header if it matches the pattern, and if what is left of it without the blanks at
its ends is a resource by the grammar: an iri in angle brackets without angle brackets and blanks
inside, or a text with one colon, before which stands nothing or a letter or underscore and name
characters, and behind which stand nothing or, between full stops, runs of name characters that
are not empty. -/
theorem isHeader_iff_grammar (line : Text) :
    let inner := trimBlanks line
    (isHeader line = true ↔ MatchesLine headerPattern line) ∧
    (isHeader line = true ↔
      (∃ iri, inner = '<' :: (iri ++ ['>']) ∧
        ∀ c ∈ iri, c ≠ '<' ∧ c ≠ '>' ∧ isBlank c = false) ∨
      inner.count ':' = 1 ∧ ∃ space part, inner = space ++ ':' :: part ∧
        (space = [] ∨ ∃ first rest, space = first :: rest ∧
          (first.isAlpha = true ∨ first = '_') ∧ ∀ c ∈ rest, isWord c = true ∨ c = '-') ∧
        (part = [] ∨ ∀ piece ∈ splitAt '.' part, piece ≠ [] ∧
          ∀ c ∈ piece, isWord c = true ∨ c = '-')) := by
  intro inner
  refine ⟨isHeader_iff_matchesLine line, ?_⟩
  simp only [← isIriChar_iff, ← isHeaderNamespace_iff_chars, ← isLocalPart_iff_pieces,
    ← List.all_eq_true]
  rw [isHeader, Bool.or_eq_true, isIriRef_iff, isHeaderName_iff]
  refine or_congr_right ⟨?_, And.right⟩
  rintro ⟨space, part, split, isSpace, isPart⟩
  refine ⟨?_, space, part, split, isSpace, isPart⟩
  rw [show inner = _ from split, count_colon_of_name isSpace isPart]

-- Words of other scripts in both parts of a name, between a wide space and a line feed; a colon
-- alone; full stops and colons where they do not belong.
example : isHeader "\u3000_é:b.٣-\n".toList = true ∧ isHeader " : ".toList = true ∧
    isHeader "a.b:c".toList = false ∧ isHeader "a:b..c".toList = false ∧
    isHeader "a:b:c".toList = false := by decide

end TurtleEdit
