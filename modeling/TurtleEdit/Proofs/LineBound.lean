import TurtleEdit.Proofs.Hits

/-!
Patterns that a blank ends, and patterns that a line feed ends.

Most standard patterns find the same match whether their text ends or a blank follows, whatever
comes after the blank. Strings and comments hold blanks, but a line feed ends them in the same way.
Only long strings reach over a line feed. One pattern needs care. Any blanks may stand between the
word that declares a namespace and the namespace, so a text that ends with that word and blanks
leaves the declaration open, and a blank does not end it.

Looking back, a pattern takes a blank for the start of the text.
-/

namespace TurtleEdit

/-! ## Blanks -/

/-- A class of characters holds no blank if it holds none of those in the table. -/
theorem eq_false_of_isBlank {inClass : Char → Bool}
    (table : ∀ range ∈ blankRanges, ∀ n ∈ List.range' range.1 (range.2 + 1 - range.1),
      inClass (Char.ofNat n) = false) {c : Char} (blank : isBlank c = true) :
    inClass c = false := by
  obtain ⟨range, inTable, low, high⟩ := CodeRanges.contains_iff.mp blank
  have inRange : c.toNat ∈ List.range' range.1 (range.2 + 1 - range.1) := by
    rw [List.mem_range'_1]
    omega
  have absent := table range inTable c.toNat inRange
  rwa [Char.ofNat_toNat] at absent

/-! ## Characters that end a name -/

/-- No name goes on with this character, and it is no colon. -/
def endsName (c : Char) : Bool := !isNamespaceChar c && c != ':'

theorem toNat_lt_of_isAlphanum {c : Char} (letter : c.isAlphanum = true) : c.toNat < 0x80 := by
  delta Char.isAlphanum Char.isAlpha Char.isUpper Char.isLower Char.isDigit at letter
  simp only [Bool.or_eq_true, Bool.and_eq_true, decide_eq_true_eq, UInt32.le_iff_toNat_le] at letter
  rw [Char.toNat]
  rcases letter with (⟨-, high⟩ | ⟨-, high⟩) | ⟨-, high⟩
  all_goals exact Nat.lt_of_le_of_lt high (by decide)

section EndsName

variable {c : Char} (ends : endsName c = true)

include ends

theorem ne_colon_of_endsName : c ≠ ':' := by
  simp only [endsName, Bool.and_eq_true, bne_iff_ne] at ends
  exact ends.2

theorem isNamespaceChar_of_endsName : isNamespaceChar c = false := by
  simp only [endsName, Bool.and_eq_true, Bool.not_eq_true'] at ends
  exact ends.1

theorem isWord_of_endsName : isWord c = false := by
  have other := isNamespaceChar_of_endsName ends
  simp only [isNamespaceChar, Bool.or_eq_false_iff] at other
  exact other.1.1

theorem isNameChar_of_endsName : isNameChar c = false := by
  have other := isNamespaceChar_of_endsName ends
  simp only [isNamespaceChar, Bool.or_eq_false_iff] at other
  rw [isNameChar, other.1.1, other.2, Bool.false_or]

theorem isAlphanum_of_endsName : c.isAlphanum = false := by
  cases letter : c.isAlphanum with
  | false => rfl
  | true =>
    have word := isWord_of_isAlphanum letter (toNat_lt_of_isAlphanum letter)
    rw [isWord_of_endsName ends] at word
    cases word

theorem isAlpha_of_endsName : c.isAlpha = false := by
  have other := isAlphanum_of_endsName ends
  rw [Char.isAlphanum, Bool.or_eq_false_iff] at other
  exact other.1

end EndsName

section Blank

variable {c : Char} (blank : isBlank c = true)

include blank

/-- A character that is no blank is not this one. -/
theorem ne_of_isBlank {d : Char} (other : isBlank d = false) : c ≠ d := by
  rintro rfl
  rw [blank] at other
  cases other

theorem isWord_of_isBlank : isWord c = false := eq_false_of_isBlank (by decide +kernel) blank

theorem isMark_of_isBlank : isMark c = false := eq_false_of_isBlank (by decide) blank

theorem isIriChar_of_isBlank : isIriChar c = false := by simp [isIriChar, blank]

theorem endsName_of_isBlank : endsName c = true := by
  have hyphen : c ≠ '-' := ne_of_isBlank blank (by decide)
  have stop : c ≠ '.' := ne_of_isBlank blank (by decide)
  have colon : c ≠ ':' := ne_of_isBlank blank (by decide)
  simp [endsName, isNamespaceChar, isWord_of_isBlank blank, hyphen, stop, colon]

theorem continuesName_of_isBlank : continuesName (some c) = false := by
  have colon : c ≠ ':' := ne_of_isBlank blank (by decide)
  have bracket : c ≠ '<' := ne_of_isBlank blank (by decide)
  have sign : c ≠ '@' := ne_of_isBlank blank (by decide)
  simp [continuesName, isWord_of_isBlank blank, colon, bracket, sign]

/-- A word without blanks does not hold this one. -/
theorem not_mem_of_isBlank {word : Text} (solid : (word.all fun d => !isBlank d) = true) :
    c ∉ word := by
  intro member
  have other := List.all_eq_true.mp solid c member
  rw [blank] at other
  cases other

end Blank

/-! ## Parts of patterns before a cut -/

section Runs

variable {inClass : Char → Bool} {cut : Char} (ends : inClass cut = false) (text rest : Text)

include ends

theorem takeWhile_append_cut :
    (text ++ cut :: rest).takeWhile inClass = text.takeWhile inClass := by
  induction text with
  | nil => exact List.takeWhile_cons_of_neg (by simp [ends])
  | cons c tail ih => rw [List.cons_append, List.takeWhile_cons, List.takeWhile_cons, ih]

theorem dropWhile_append_cut :
    (text ++ cut :: rest).dropWhile inClass = text.dropWhile inClass ++ cut :: rest := by
  induction text with
  | nil => exact List.dropWhile_cons_of_neg (by simp [ends])
  | cons c tail ih =>
    rw [List.cons_append, List.dropWhile_cons, List.dropWhile_cons, ih]
    split <;> rfl

theorem runLength_append_cut :
    runLength inClass (text ++ cut :: rest) = runLength inClass text := by
  rw [runLength, takeWhile_append_cut ends, runLength]

theorem head?_any_append_cut :
    (text ++ cut :: rest).head?.any inClass = text.head?.any inClass := by
  cases text with
  | nil => exact ends
  | cons c tail => rfl

end Runs

theorem startsWith_append_cut {word : String} {cut : Char} (foreign : cut ∉ word.toList)
    (text rest : Text) : startsWith word (text ++ cut :: rest) = startsWith word text := by
  unfold startsWith
  generalize word.toList = chars at foreign
  induction chars generalizing text with
  | nil => rfl
  | cons c chars ih =>
    have other := List.ne_of_not_mem_cons foreign
    have tailForeign := List.not_mem_of_not_mem_cons foreign
    cases text with
    | nil =>
      have differs : (c == cut) = false := by simpa using Ne.symm other
      rw [List.nil_append, List.isPrefixOf_cons_cons, differs, Bool.false_and]
      rfl
    | cons d tail => rw [List.cons_append, List.isPrefixOf, List.isPrefixOf, ih _ tailForeign]

/-- A cut stays where it is when no more than the text before it is dropped. -/
theorem drop_append_cut {n : Nat} {text : Text} (inside : n ≤ text.length) (cut : Char)
    (rest : Text) : (text ++ cut :: rest).drop n = text.drop n ++ cut :: rest :=
  List.drop_append_of_le_length inside

section Names

variable {cut : Char} (ends : endsName cut = true) (text rest : Text)

include ends

theorem namespaceLength_append_cut :
    namespaceLength (text ++ cut :: rest) = namespaceLength text := by
  cases text with
  | nil =>
    rw [List.nil_append, namespaceLength_cons_of_ne (ne_colon_of_endsName ends),
      isAlpha_of_endsName ends]
    rfl
  | cons c tail =>
    by_cases colon : c = ':'
    · subst colon
      rfl
    · rw [List.cons_append, namespaceLength_cons_of_ne colon, namespaceLength_cons_of_ne colon,
        dropWhile_append_cut (isNamespaceChar_of_endsName ends),
        runLength_append_cut (isNamespaceChar_of_endsName ends),
        head?_any_append_cut (by simpa using ne_colon_of_endsName ends)]

theorem localLengthFrom_append_cut (inRun : Bool) :
    localLengthFrom inRun (text ++ cut :: rest) = localLengthFrom inRun text := by
  induction text generalizing inRun with
  | nil =>
    have stop : cut ≠ '.' := by
      rintro rfl
      exact absurd ends (by decide)
    simp [localLengthFrom_cons, localLengthFrom, isNameChar_of_endsName ends, stop]
  | cons c tail ih =>
    rw [List.cons_append, localLengthFrom_cons, localLengthFrom_cons, ih, ih,
      head?_any_append_cut (isNameChar_of_endsName ends)]

theorem subtagsLength_append_cut (inRun : Bool) :
    subtagsLength inRun (text ++ cut :: rest) = subtagsLength inRun text := by
  induction text generalizing inRun with
  | nil =>
    have hyphen : cut ≠ '-' := by
      rintro rfl
      exact absurd ends (by decide)
    simp [subtagsLength_cons, subtagsLength, isAlphanum_of_endsName ends, hyphen]
  | cons c tail ih =>
    rw [List.cons_append, subtagsLength_cons, subtagsLength_cons, ih,
      head?_any_append_cut (isAlphanum_of_endsName ends)]

theorem nameLength_append_cut : nameLength (text ++ cut :: rest) = nameLength text := by
  unfold nameLength
  rw [namespaceLength_append_cut ends]
  cases found : namespaceLength text with
  | none => rfl
  | some n =>
    rw [Option.map_some, Option.map_some, drop_append_cut (namespaceLength_bounds found).2,
      localLength, localLengthFrom_append_cut ends, localLength]

end Names

theorem iriLength_append_blank {b : Char} (blank : isBlank b = true) (text rest : Text) :
    iriLength (text ++ b :: rest) = iriLength text := by
  cases text with
  | nil =>
    have other : b ≠ '<' := ne_of_isBlank blank (by decide)
    rw [List.nil_append, iriLength.eq_2 _ (fun _ same => other (List.cons.inj same).1)]
    rfl
  | cons c tail =>
    by_cases opening : c = '<'
    · subst opening
      rw [List.cons_append, iriLength_cons, iriLength_cons,
        dropWhile_append_cut (isIriChar_of_isBlank blank),
        runLength_append_cut (isIriChar_of_isBlank blank),
        head?_any_append_cut (by simpa using ne_of_isBlank blank (by decide))]
    · rw [List.cons_append, iriLength.eq_2 _ (fun _ same => opening (List.cons.inj same).1),
        iriLength.eq_2 _ (fun _ same => opening (List.cons.inj same).1)]

theorem stringBody_append_newline (text rest : Text) :
    stringBody (text ++ '\n' :: rest) = stringBody text := by
  induction text using stringBody.induct with
  | case1 => rfl
  | case2 after => rfl
  | case3 after => rfl
  | case4 c after other ih =>
    rw [List.cons_append, List.cons_append, stringBody, stringBody, if_neg other, if_neg other, ih]
  | case5 => rfl
  | case6 after noQuote noEscape noLast => rfl
  | case7 c after noQuote noEscape noLast other ih =>
    have noBackslash : c ≠ '\\' := by
      rintro rfl
      cases after with
      | nil => exact noLast rfl rfl
      | cons d tail => exact noEscape d tail rfl rfl
    rw [List.cons_append, stringBody.eq_5 _ _ noQuote noEscape noLast,
      stringBody.eq_5 _ _ noQuote (fun _ _ same => absurd same noBackslash)
        (fun same => absurd same noBackslash), ih]

/-! ## Open declarations -/

/-- The word that declares a namespace, with nothing but blanks after it. -/
def OpenDeclaration (text : Text) : Prop :=
  ∃ blanks : Text, blanks.all isBlank = true ∧ text = "@prefix".toList ++ blanks

/-- A declaration is open at the end of the text. -/
def EndsInOpenDeclaration (text : Text) : Prop := ∃ tail, tail <:+ text ∧ OpenDeclaration tail

theorem openDeclaration_iff {text : Text} :
    OpenDeclaration text ↔ startsWith "@prefix" text = true ∧ (text.drop 7).all isBlank = true := by
  constructor
  · rintro ⟨blanks, allBlank, rfl⟩
    exact ⟨startsWith_iff.mpr (List.prefix_append _ _), allBlank⟩
  · rintro ⟨starts, allBlank⟩
    obtain ⟨blanks, rfl⟩ := startsWith_iff.mp starts
    exact ⟨blanks, allBlank, rfl⟩

instance (text : Text) : Decidable (OpenDeclaration text) :=
  decidable_of_iff _ openDeclaration_iff.symm

theorem endsInOpenDeclaration_iff {text : Text} :
    EndsInOpenDeclaration text ↔
      ∃ pos ∈ List.range (text.length + 1), OpenDeclaration (text.drop pos) := by
  constructor
  · rintro ⟨tail, ⟨front, rfl⟩, isOpen⟩
    refine ⟨front.length, List.mem_range.mpr ?_, by rwa [List.drop_left]⟩
    rw [List.length_append]
    omega
  · rintro ⟨pos, -, isOpen⟩
    exact ⟨text.drop pos, List.drop_suffix pos text, isOpen⟩

instance (text : Text) : Decidable (EndsInOpenDeclaration text) :=
  decidable_of_iff _ endsInOpenDeclaration_iff.symm

/-- The blanks after the declaring word end before the text does, unless the declaration is open. -/
theorem takeWhile_isBlank_append_blank {tail : Text}
    (closed : ¬ OpenDeclaration ("@prefix".toList ++ tail)) (b : Char) (rest : Text) :
    (tail ++ b :: rest).takeWhile isBlank = tail.takeWhile isBlank := by
  rw [List.takeWhile_append, if_neg]
  intro allBlank
  refine closed ⟨tail, ?_, rfl⟩
  have same : tail.takeWhile isBlank = tail :=
    (List.takeWhile_prefix isBlank).eq_of_length allBlank
  rw [← same]
  exact List.all_takeWhile

/-! ## Matches before a cut -/

/-- Patterns that never reach over a line feed, open declarations aside. -/
def Pattern.lineBound : Pattern → Bool
  | string | comment | declaredNamespace | datatypeIri | datatypeName => true
  | language | iri | blankNode | prefixedName | punctuation => true
  | directive word => !word.toList.isEmpty && !word.toList.contains '\n'
  | longString | single _ | run _ | either _ _ | enclosed _ _ | marked _ => false

/-- Patterns that never reach over a blank, open declarations aside. -/
def Pattern.wordBound : Pattern → Bool
  | declaredNamespace | datatypeIri | datatypeName => true
  | language | iri | blankNode | prefixedName | punctuation => true
  | directive word => !word.toList.isEmpty && word.toList.all fun c => !isBlank c
  | longString | string | comment | single _ | run _ | either _ _ | enclosed _ _ | marked _ => false

theorem Pattern.lineBound_of_wordBound {pattern : Pattern} (bound : pattern.wordBound = true) :
    pattern.lineBound = true := by
  cases pattern <;> simp only [wordBound, Bool.false_eq_true] at bound <;> try rfl
  case directive word =>
    simp only [Bool.and_eq_true] at bound
    have oneLine : '\n' ∉ word.toList := not_mem_of_isBlank (by decide) bound.2
    simp only [lineBound, Bool.and_eq_true, List.contains_eq_mem, oneLine, decide_false,
      Bool.not_false, and_true]
    exact bound.1

/-- A pattern bound to its line finds nothing at the end of the text. -/
theorem Pattern.hit_nil {pattern : Pattern} (bound : pattern.lineBound = true)
    (before : Option Char) : pattern.hit before [] = none := by
  cases pattern <;> simp only [lineBound, Bool.false_eq_true] at bound
  case directive word =>
    simp only [Bool.and_eq_true, Bool.not_eq_true'] at bound
    have never : startsWith word [] = false := by
      unfold startsWith
      cases chars : word.toList with
      | nil => simp [chars] at bound
      | cons c rest => rfl
    simp [hit, never]
  case string | declaredNamespace | datatypeIri | datatypeName | language | iri | blankNode
    | punctuation => rfl
  case comment =>
    have never : startsWith "#" [] = false := rfl
    simp [hit, never]
  case prefixedName =>
    have never : nameLength [] = none := rfl
    simp [hit, never]

/-- A directive is ended by any character that is neither part of it nor of a word. -/
theorem Pattern.hit_directive_append_cut {word : String} {cut : Char}
    (foreign : cut ∉ word.toList) (ends : isWord cut = false) (before : Option Char)
    (text rest : Text) :
    (directive word).hit before (text ++ cut :: rest) = (directive word).hit before text := by
  simp only [hit]
  rw [startsWith_append_cut foreign]
  cases starts : startsWith word text with
  | false => simp
  | true =>
    have inside := length_le_of_startsWith starts
    rw [String.length_toList] at inside
    rw [drop_append_cut inside, head?_any_append_cut ends]

/-- Patterns whose matches are a mark of their own and characters of names. -/
def Pattern.named : Pattern → Bool
  | datatypeName | language | blankNode | prefixedName => true
  | _ => false

/-- Such a match is ended by any character that ends a name and is none of the marks. -/
theorem Pattern.hit_append_named {pattern : Pattern} (named : pattern.named = true) {cut : Char}
    (ends : endsName cut = true) (foreign : cut ≠ '@' ∧ cut ≠ '^') (before : Option Char)
    (text rest : Text) :
    pattern.hit before (text ++ cut :: rest) = pattern.hit before text := by
  cases pattern <;> simp only [Pattern.named, Bool.false_eq_true] at named <;> simp only [hit]
  case datatypeName =>
    rw [startsWith_append_cut (by simpa using foreign.2)]
    cases starts : startsWith "^^" text with
    | false => rfl
    | true =>
      have size : 2 ≤ text.length := length_le_of_startsWith starts
      rw [drop_append_cut size, nameLength_append_cut ends]
  case language =>
    cases text with
    | nil => simp [foreign.1]
    | cons c tail =>
      by_cases mark : c = '@'
      · subst mark
        simp only [List.cons_append]
        rw [runLength_append_cut (isAlpha_of_endsName ends), drop_append_cut (runLength_le _ _),
          subtagsLength_append_cut ends]
      · simp [mark]
  case blankNode =>
    have underscore : cut ≠ '_' := by
      rintro rfl
      exact absurd ends (by decide)
    rw [startsWith_append_cut (by simpa using ⟨underscore, ne_colon_of_endsName ends⟩)]
    cases starts : startsWith "_:" text with
    | false => rfl
    | true =>
      have size : 2 ≤ text.length := length_le_of_startsWith starts
      rw [drop_append_cut size, localLength, localLengthFrom_append_cut ends, localLength]
  case prefixedName => rw [nameLength_append_cut ends]

/-- A blank ends a match as the end of the text does. -/
theorem Pattern.hit_append_blank {pattern : Pattern} (bound : pattern.wordBound = true)
    (before : Option Char) {b : Char} (blank : isBlank b = true) {text : Text}
    (closed : pattern = .declaredNamespace → ¬ OpenDeclaration text) (rest : Text) :
    pattern.hit before (text ++ b :: rest) = pattern.hit before text := by
  have ends := endsName_of_isBlank blank
  cases pattern <;> simp only [wordBound, Bool.false_eq_true] at bound
  case directive word =>
    simp only [Bool.and_eq_true] at bound
    exact hit_directive_append_cut (not_mem_of_isBlank blank bound.2) (isWord_of_isBlank blank)
      before text rest
  case datatypeName | language | blankNode | prefixedName =>
    have foreign : b ≠ '@' ∧ b ≠ '^' :=
      ⟨ne_of_isBlank blank (by decide), ne_of_isBlank blank (by decide)⟩
    exact hit_append_named rfl ends foreign before text rest
  all_goals simp only [hit]
  case declaredNamespace =>
    rw [startsWith_append_cut (not_mem_of_isBlank blank (by decide))]
    cases starts : startsWith "@prefix" text with
    | false => rfl
    | true =>
      obtain ⟨tail, rfl⟩ := startsWith_iff.mp starts
      have blanks : runLength isBlank (("@prefix".toList ++ tail ++ b :: rest).drop 7) =
          runLength isBlank (("@prefix".toList ++ tail).drop 7) :=
        congrArg List.length (takeWhile_isBlank_append_blank (closed rfl) b rest)
      have inside : 7 + runLength isBlank (("@prefix".toList ++ tail).drop 7) ≤
          ("@prefix".toList ++ tail).length := by
        have short := runLength_le isBlank tail
        rw [List.length_append]
        exact Nat.add_le_add_left short 7
      rw [blanks, drop_append_cut inside, namespaceLength_append_cut ends]
  case datatypeIri =>
    rw [startsWith_append_cut (not_mem_of_isBlank blank (by decide))]
    cases starts : startsWith "^^" text with
    | false => rfl
    | true =>
      have size : 2 ≤ text.length := length_le_of_startsWith starts
      rw [drop_append_cut size, iriLength_append_blank blank]
  case iri => rw [iriLength_append_blank blank]
  case punctuation =>
    cases text with
    | nil => simp [isMark_of_isBlank blank]
    | cons c tail =>
      cases tail with
      | nil => simp [beforeBlank, blank]
      | cons d after => rfl

/-- A line feed ends a match as the end of the text does. -/
theorem Pattern.hit_append_newline {pattern : Pattern} (bound : pattern.lineBound = true)
    (before : Option Char) {text : Text}
    (closed : pattern = .declaredNamespace → ¬ OpenDeclaration text) (rest : Text) :
    pattern.hit before (text ++ '\n' :: rest) = pattern.hit before text := by
  have feed : isBlank '\n' = true := by decide
  cases pattern <;> simp only [lineBound, Bool.false_eq_true] at bound
  case string =>
    simp only [hit]
    cases text with
    | nil => rfl
    | cons c tail =>
      by_cases quote : c = '"'
      · subst quote
        exact congrArg (Option.map _) (stringBody_append_newline tail rest)
      · simp [quote]
  case comment =>
    simp only [hit]
    rw [startsWith_append_cut (by decide), runLength_append_cut (by decide)]
  case directive word =>
    simp only [Bool.and_eq_true, Bool.not_eq_true', List.contains_eq_mem,
      decide_eq_false_iff_not] at bound
    exact hit_directive_append_cut bound.2 (isWord_of_isBlank feed) before text rest
  all_goals exact hit_append_blank rfl before feed closed rest

/-! ## Matches after a blank -/

/-- After a blank a pattern matches as at the start of the text. -/
theorem Pattern.hit_after_blank (pattern : Pattern) {b : Char} (blank : isBlank b = true)
    (text : Text) : pattern.hit (some b) text = pattern.hit none text := by
  have notQuote : b ≠ '"' := ne_of_isBlank blank (by decide)
  have free : afterBlank (some b) = afterBlank none := blank
  have starts : continuesName (some b) = continuesName none := continuesName_of_isBlank blank
  cases pattern <;> simp only [hit, free, starts]
  case language => simp [notQuote]

end TurtleEdit
