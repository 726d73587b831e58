import TurtleEdit.Proofs.Tokens
import TurtleEdit.Proofs.Words

/-!
The rules for words give each token without a string its styles.

For every kind of token the rule that finds it is named, with the reason why the rules before it are
silent. Only a declaration is found by two rules: one paints its word, the next one its namespace.
-/

namespace TurtleEdit

/-! ## Runs of characters -/

/-- Runs of characters of a class, none of them empty, divided by a separator. The flag tells that
a run was begun before. -/
def runsFrom (sep : Char) (inClass : Char → Bool) : Bool → Text → Bool
  | inRun, [] => inRun
  | inRun, c :: rest =>
    if c = sep then inRun && runsFrom sep inClass false rest
    else inClass c && runsFrom sep inClass true rest

/-- A text is split into such runs. -/
theorem all_splitAt_eq_runsFrom {sep : Char} {text piece : Text} {pieces : List Text}
    (split : splitAt sep text = piece :: pieces) (inClass : Char → Bool) (inRun : Bool) :
    ((inRun || !piece.isEmpty) && piece.all inClass &&
      pieces.all fun run => !run.isEmpty && run.all inClass) =
      runsFrom sep inClass inRun text := by
  induction text generalizing piece pieces inRun with
  | nil =>
    cases split
    simp [runsFrom]
  | cons c rest ih =>
    cases later : splitAt sep rest with
    | nil => exact absurd later (splitAt_ne_nil _ _)
    | cons first others =>
      rw [splitAt, later] at split
      rw [runsFrom]
      by_cases divides : c = sep
      · rw [if_pos divides] at split
        cases split
        rw [if_pos divides, ← ih later false]
        simp
      · rw [if_neg divides] at split
        cases split
        rw [if_neg divides, ← ih later true]
        simp [Bool.and_assoc]

/-- A local part is empty, or made of such runs. -/
theorem isLocalPart_eq_runsFrom (part : Text) :
    isLocalPart part = (part.isEmpty || runsFrom '.' isNameChar false part) := by
  cases split : splitAt '.' part with
  | nil => exact absurd split (splitAt_ne_nil _ _)
  | cons piece pieces =>
    rw [isLocalPart, split, ← all_splitAt_eq_runsFrom split, List.all_cons, Bool.false_or]

theorem runsFrom_of_isLocalPart {part : Text} (isPart : isLocalPart part = true)
    (filled : part ≠ []) : runsFrom '.' isNameChar false part = true := by
  rwa [isLocalPart_eq_runsFrom, List.isEmpty_eq_false_iff.mpr filled, Bool.false_or] at isPart

section Runs

variable {sep : Char} {inClass : Char → Bool}

theorem mem_of_runsFrom {inRun : Bool} {text : Text}
    (runs : runsFrom sep inClass inRun text = true) {c : Char} (member : c ∈ text) :
    c = sep ∨ inClass c = true := by
  induction text generalizing inRun with
  | nil => cases member
  | cons d rest ih =>
    rw [runsFrom] at runs
    split at runs
    · next divides =>
      rw [Bool.and_eq_true] at runs
      rcases List.mem_cons.mp member with rfl | later
      · exact Or.inl divides
      · exact ih runs.2 later
    · rw [Bool.and_eq_true] at runs
      rcases List.mem_cons.mp member with rfl | later
      · exact Or.inr runs.1
      · exact ih runs.2 later

/-- A run that has to begin begins with a character of its class. -/
theorem head?_of_runsFrom {text : Text} (runs : runsFrom sep inClass false text = true) :
    text.head?.any inClass = true ∧ runsFrom sep inClass true text = true := by
  cases text with
  | nil => cases runs
  | cons c rest =>
    rw [runsFrom] at runs
    split at runs
    · rw [Bool.false_and] at runs
      cases runs
    · next other =>
      rw [runsFrom, if_neg other, runs]
      rw [Bool.and_eq_true] at runs
      exact ⟨runs.1, rfl⟩

end Runs

theorem localLengthFrom_of_runsFrom {inRun : Bool} {text : Text}
    (runs : runsFrom '.' isNameChar inRun text = true) :
    localLengthFrom inRun text = text.length := by
  induction text generalizing inRun with
  | nil => rfl
  | cons c rest ih =>
    rw [runsFrom] at runs
    rw [localLengthFrom_cons, List.length_cons]
    split at runs
    · next stop =>
      subst stop
      rw [Bool.and_eq_true] at runs
      have noName : isNameChar '.' = false := by decide
      rw [noName, runs.1, (head?_of_runsFrom runs.2).1, ← ih runs.2]
      rfl
    · rw [Bool.and_eq_true] at runs
      rw [if_pos runs.1, ih runs.2]

theorem subtagsLength_of_runsFrom {text : Text}
    (runs : runsFrom '-' Char.isAlphanum true text = true) :
    subtagsLength true text = text.length := by
  induction text with
  | nil => rfl
  | cons c rest ih =>
    rw [runsFrom] at runs
    rw [subtagsLength_cons, List.length_cons]
    split at runs
    · next hyphen =>
      subst hyphen
      rw [Bool.true_and] at runs
      obtain ⟨first, later⟩ := head?_of_runsFrom runs
      have noLetter : Char.isAlphanum '-' = false := by decide
      rw [noLetter, first, ih later]
      rfl
    · rw [Bool.and_eq_true] at runs
      rw [runs.1, ih runs.2]
      rfl

/-! ## Lengths of words -/

/-- A text of characters that names go on with holds none that ends a name. -/
theorem not_mem_of_endsName {c : Char} (ends : endsName c = true) {text : Text}
    (named : ∀ d ∈ text, endsName d = false) : c ∉ text := by
  intro member
  rw [named c member] at ends
  cases ends

theorem isBlank_of_named {text : Text} (named : ∀ d ∈ text, endsName d = false) :
    ∀ c ∈ text, isBlank c = false := by
  intro c member
  cases blank : isBlank c with
  | false => rfl
  | true => exact absurd member (not_mem_of_endsName (endsName_of_isBlank blank) named)

theorem endsName_of_isNamespaceChar {c : Char} (inName : isNamespaceChar c = true) :
    endsName c = false := by
  rw [endsName, inName]
  rfl

theorem isNamespaceChar_of_isAlphanum {c : Char} (letter : c.isAlphanum = true) :
    isNamespaceChar c = true := by
  rw [isNamespaceChar, isWord_of_isAlphanum letter (toNat_lt_of_isAlphanum letter)]
  rfl

theorem isNamespaceChar_of_isNameChar {c : Char} (inName : isNameChar c = true) :
    isNamespaceChar c = true := by
  rw [isNameChar, Bool.or_eq_true] at inName
  rw [isNamespaceChar, Bool.or_eq_true, Bool.or_eq_true]
  exact inName.imp_left Or.inl

theorem isNamespaceChar_of_mem_namespace {space : Text} (isSpace : isNamespace space = true)
    {c : Char} (member : c ∈ space) : isNamespaceChar c = true := by
  cases space with
  | nil => cases member
  | cons d rest =>
    rw [isNamespace, Bool.and_eq_true] at isSpace
    rcases List.mem_cons.mp member with rfl | later
    · refine isNamespaceChar_of_isAlphanum ?_
      rw [Char.isAlphanum, isSpace.1, Bool.true_or]
    · exact List.all_eq_true.mp isSpace.2 c later

theorem isNamespaceChar_of_mem_localPart {part : Text} (isPart : isLocalPart part = true)
    {c : Char} (member : c ∈ part) : isNamespaceChar c = true := by
  have runs := runsFrom_of_isLocalPart isPart (List.ne_nil_of_mem member)
  rcases mem_of_runsFrom runs member with rfl | inName
  · decide
  · exact isNamespaceChar_of_isNameChar inName

theorem named_name {space part : Text} (isSpace : isNamespace space = true)
    (isPart : isLocalPart part = true) : ∀ c ∈ space ++ ':' :: part, endsName c = false := by
  intro c member
  rcases List.mem_append.mp member with inSpace | inPart
  · exact endsName_of_isNamespaceChar (isNamespaceChar_of_mem_namespace isSpace inSpace)
  · rcases List.mem_cons.mp inPart with rfl | later
    · decide
    · exact endsName_of_isNamespaceChar (isNamespaceChar_of_mem_localPart isPart later)

theorem named_label {label : Text} (isLabel : isLocalPart label = true) :
    ∀ c ∈ "_:".toList ++ label, endsName c = false := by
  have sign : ∀ c ∈ "_:".toList, endsName c = false :=
    List.forall_mem_cons.mpr ⟨by decide, List.forall_mem_singleton.mpr (by decide)⟩
  refine List.forall_mem_append.mpr ⟨sign, fun c member => ?_⟩
  exact endsName_of_isNamespaceChar (isNamespaceChar_of_mem_localPart isLabel member)

theorem localLength_of_isLocalPart {part : Text} (isPart : isLocalPart part = true) :
    localLength part = part.length := by
  by_cases filled : part = []
  · subst filled
    rfl
  · exact localLengthFrom_of_runsFrom (runsFrom_of_isLocalPart isPart filled)

section Words

variable {inClass : Char → Bool} {word : Text} (inWord : ∀ c ∈ word, inClass c = true)
  {cut : Char} (ends : inClass cut = false) (rest : Text)

include inWord ends

theorem dropWhile_word : (word ++ cut :: rest).dropWhile inClass = cut :: rest := by
  rw [List.dropWhile_append_of_pos inWord, List.dropWhile_cons_of_neg (by simp [ends])]

theorem runLength_word : runLength inClass (word ++ cut :: rest) = word.length := by
  rw [runLength, List.takeWhile_append_of_pos inWord,
    List.takeWhile_cons_of_neg (by simp [ends]), List.append_nil]

end Words

theorem namespaceLength_of_isNamespace {space : Text} (isSpace : isNamespace space = true)
    (rest : Text) : namespaceLength (space ++ ':' :: rest) = some (space.length + 1) := by
  cases space with
  | nil => rfl
  | cons c tail =>
    rw [isNamespace, Bool.and_eq_true] at isSpace
    have inTail := List.all_eq_true.mp isSpace.2
    have colon : isNamespaceChar ':' = false := by decide
    have other : c ≠ ':' := by
      rintro rfl
      exact absurd isSpace.1 (by decide)
    rw [List.cons_append, namespaceLength_cons_of_ne other, isSpace.1,
      dropWhile_word inTail colon, runLength_word inTail colon]
    rfl

theorem nameLength_of_isNamespace {space part : Text} (isSpace : isNamespace space = true)
    (isPart : isLocalPart part = true) :
    nameLength (space ++ ':' :: part) = some (space ++ ':' :: part).length := by
  have after : (space ++ ':' :: part).drop (space.length + 1) = part := by
    rw [List.drop_length_add_append]
    rfl
  rw [nameLength, namespaceLength_of_isNamespace isSpace, Option.map_some, after,
    localLength_of_isLocalPart isPart, List.length_append, List.length_cons]
  congr 1
  omega

theorem isIriChar_of_isPlainIri {iri : Text} (plain : isPlainIri iri = true) {c : Char}
    (member : c ∈ iri) : isIriChar c = true ∧ c ≠ '"' ∧ c ≠ '^' := by
  have here := List.all_eq_true.mp plain c member
  simp only [Bool.and_eq_true, bne_iff_ne] at here
  exact ⟨here.1.1, here.1.2, here.2⟩

theorem iriLength_of_isPlainIri {iri : Text} (plain : isPlainIri iri = true) :
    iriLength ('<' :: (iri ++ ['>'])) = some ('<' :: (iri ++ ['>'])).length := by
  have inIri : ∀ c ∈ iri, isIriChar c = true := fun c member =>
    (isIriChar_of_isPlainIri plain member).1
  have closing : isIriChar '>' = false := by decide
  rw [iriLength_cons, dropWhile_word inIri closing, runLength_word inIri closing,
    List.length_cons, List.length_append]
  rfl

/-! ## Tokens that are one word -/

/-- A word that a rule finds as a whole, and the rules before it do not find, gets its style. -/
theorem wordCoats_word {quiet later : List Rule} {painter : Rule}
    (table : wordRules = quiet ++ painter :: later) {before : Option Char} {word : Text}
    (silent : ∀ rule ∈ quiet, rule.pattern.Silent before word) {hit : Hit}
    (found : painter.pattern.hit before word = some hit) (skips : hit.skip = 0)
    (whole : hit.length = word.length) :
    wordCoats before word (Canvas.empty word.length) = cellsIn painter.style word :=
  @wordCoats_of_hit quiet later painter table before [] word silent hit found skips whole
    fun _ member => nomatch member

/-- Nothing is declared in a text without blanks, unless a directive stands at its start. -/
theorem silent_declarations {before : Option Char} {text : Text}
    (solid : ∀ c ∈ text, isBlank c = false)
    (start : afterBlank before = false ∨ text.head? ≠ some '@') :
    ∀ rule ∈ wordRules.take 3, rule.pattern.Silent before text := by
  have directive : ∀ {word : String}, (Pattern.directive word).inWord = true →
      (Pattern.directive word).Silent before text := by
    intro word inWord
    refine Pattern.silent_directive inWord solid ?_
    rcases start with inside | other
    · simp [Pattern.hit, inside]
    · simp only [Pattern.inWord, Bool.and_eq_true, beq_iff_eq] at inWord
      have opens : (Pattern.directive word).opener = some '@' := inWord.1
      exact Option.eq_none_iff_forall_ne_some.mpr fun hit found =>
        other (Pattern.head?_of_hit opens found)
  exact List.forall_mem_cons.mpr ⟨directive rfl, List.forall_mem_cons.mpr
    ⟨Pattern.silent_declaredNamespace solid _, List.forall_mem_singleton.mpr (directive rfl)⟩⟩

/-- On a text of characters of names only the rules for names find something. -/
theorem silent_of_named {word : Text} (named : ∀ c ∈ word, endsName c = false)
    (before : Option Char) : ∀ rule ∈ wordRules.take 7, rule.pattern.Silent before word := by
  have openers : ∀ rule ∈ wordRules.take 7, rule.pattern.opener.any endsName = true := by decide
  intro rule member
  obtain ⟨c, opens, ends⟩ := (Option.any_eq_true _ _).mp (openers rule member)
  exact Pattern.silent_of_opener opens (not_mem_of_endsName ends named) before

/-- A label is found whatever stands before it. -/
theorem hit_blankNode {label : Text} (isLabel : isLocalPart label = true) (filled : label ≠ [])
    (before : Option Char) :
    Pattern.blankNode.hit before ("_:".toList ++ label) =
      some (.whole ("_:".toList ++ label).length) := by
  have starts : startsWith "_:" ("_:".toList ++ label) = true :=
    startsWith_iff.mpr (List.prefix_append _ _)
  have after : ("_:".toList ++ label).drop 2 = label := rfl
  simp only [Pattern.hit]
  rw [if_pos starts, after, localLength_of_isLocalPart isLabel,
    if_neg (List.length_eq_zero_iff.not.mpr filled)]
  rfl

theorem wordCoats_blankNode {label : Text} (isLabel : isLocalPart label = true)
    (filled : label ≠ []) :
    wordCoats none ("_:".toList ++ label) (Canvas.empty ("_:".toList ++ label).length) =
      cellsIn .blankNode ("_:".toList ++ label) :=
  @wordCoats_word (wordRules.take 7) (wordRules.drop 8)
    ⟨"blank-node", .blankNode, .blankNode, 0, false⟩ rfl none _
    (silent_of_named (named_label isLabel) none) _ (hit_blankNode isLabel filled none) rfl rfl

/-- A name is no label of a node, unless an underscore comes right before its colon. -/
theorem silent_blankNode_name {space part : Text} (isSpace : isNamespace space = true)
    (isPart : isLocalPart part = true) (other : space.getLast? = some '_' → part = []) :
    Pattern.blankNode.Silent none (space ++ ':' :: part) := by
  have noColon : isNamespaceChar ':' ≠ true := by decide
  have notInSpace : ':' ∉ space := fun member =>
    noColon (isNamespaceChar_of_mem_namespace isSpace member)
  have notInPart : ':' ∉ part := fun member =>
    noColon (isNamespaceChar_of_mem_localPart isPart member)
  intro k
  simp only [Pattern.hit]
  split
  · next starts =>
    -- the one colon of the name is the one of the label
    obtain ⟨rest, here⟩ := startsWith_iff.mp starts
    have whole : space ++ ':' :: part =
        ((space ++ ':' :: part).take k ++ ['_']) ++ ':' :: rest := by
      rw [List.append_assoc]
      exact (List.take_append_drop k _).symm.trans (congrArg _ here.symm)
    obtain ⟨sameSpace, -, samePart⟩ :=
      (List.append_cons_inj_of_notMem notInSpace notInPart).mp whole
    have empty : part = [] := other (by rw [sameSpace, List.getLast?_concat])
    have after : ((space ++ ':' :: part).drop k).drop 2 = rest := by
      rw [← here]
      rfl
    rw [after, ← samePart, empty]
    rfl
  · rfl

theorem wordCoats_name {space part : Text} (isSpace : isNamespace space = true)
    (isPart : isLocalPart part = true) (other : space.getLast? = some '_' → part = []) :
    wordCoats none (space ++ ':' :: part) (Canvas.empty (space ++ ':' :: part).length) =
      cellsIn .prefixedName (space ++ ':' :: part) := by
  have silent : ∀ rule ∈ wordRules.take 8, rule.pattern.Silent none (space ++ ':' :: part) := by
    have quiet := silent_of_named (named_name isSpace isPart) none
    exact List.forall_mem_append.mpr ⟨quiet, List.forall_mem_singleton.mpr
      (silent_blankNode_name isSpace isPart other)⟩
  refine @wordCoats_word (wordRules.take 8) (wordRules.drop 9)
    ⟨"prefixed-name", .prefixedName, .prefixedName, 0, false⟩ rfl none _ silent
    (.whole (space ++ ':' :: part).length) ?_ rfl rfl
  simp only [Pattern.hit]
  rw [nameLength_of_isNamespace isSpace isPart]
  rfl

theorem wordCoats_base :
    wordCoats none "@base".toList (Canvas.empty "@base".toList.length) =
      cellsIn .keyword "@base".toList := by
  decide +kernel

theorem isMark_iff {c : Char} :
    isMark c = true ↔ c = 'a' ∨ c = '[' ∨ c = ']' ∨ c = ',' ∨ c = ';' ∨ c = '.' := by
  simp only [isMark, Bool.or_eq_true, beq_iff_eq, or_assoc]

theorem wordCoats_mark {c : Char} (mark : isMark c = true) :
    wordCoats none [c] (Canvas.empty 1) = cellsIn .punctuation [c] := by
  obtain rfl | rfl | rfl | rfl | rfl | rfl := isMark_iff.mp mark
  all_goals decide +kernel

/-- An iri in its brackets holds no blank, no quote and no caret. -/
theorem solid_iri {iri : Text} (plain : isPlainIri iri = true) :
    ∀ c ∈ '<' :: (iri ++ ['>']), isBlank c = false ∧ c ≠ '"' ∧ c ≠ '^' := by
  intro c member
  rcases List.mem_cons.mp member with rfl | later
  · decide
  · rcases List.mem_append.mp later with inIri | closing
    · obtain ⟨inClass, quote, caret⟩ := isIriChar_of_isPlainIri plain inIri
      simp only [isIriChar, Bool.and_eq_true, Bool.not_eq_true'] at inClass
      exact ⟨inClass.2, quote, caret⟩
    · rw [List.mem_singleton.mp closing]
      decide

theorem wordCoats_iri {iri : Text} (plain : isPlainIri iri = true) :
    wordCoats none ('<' :: (iri ++ ['>'])) (Canvas.empty ('<' :: (iri ++ ['>'])).length) =
      cellsIn .iri ('<' :: (iri ++ ['>'])) := by
  have solid := solid_iri plain
  have noBlank : ∀ c ∈ '<' :: (iri ++ ['>']), isBlank c = false := fun c member =>
    (solid c member).1
  have noQuote : '"' ∉ '<' :: (iri ++ ['>']) := fun member => (solid _ member).2.1 rfl
  have noCaret : '^' ∉ '<' :: (iri ++ ['>']) := fun member => (solid _ member).2.2 rfl
  have silent : ∀ rule ∈ wordRules.take 6,
      rule.pattern.Silent none ('<' :: (iri ++ ['>'])) := by
    refine List.forall_mem_append.mpr ⟨silent_declarations noBlank (Or.inr (by simp)), ?_⟩
    exact List.forall_mem_cons.mpr ⟨Pattern.silent_of_opener rfl noCaret none,
      List.forall_mem_cons.mpr ⟨Pattern.silent_of_opener rfl noCaret none,
        List.forall_mem_singleton.mpr (Pattern.silent_language noQuote (by simp))⟩⟩
  refine @wordCoats_word (wordRules.take 6) (wordRules.drop 7) ⟨"uri", .iri, .iri, 0, false⟩ rfl
    none _ silent (.whole ('<' :: (iri ++ ['>'])).length) ?_ rfl rfl
  simp only [Pattern.hit]
  rw [iriLength_of_isPlainIri plain, Option.map_some]

/-! ## Declarations -/

theorem begins_of_isBlank {c : Char} (blank : isBlank c = true) : begins c = false := by
  rw [begins, blank]
  rfl

/-- The namespace of a declaration is found behind its word and the blanks after it. -/
theorem hit_declaredNamespace {blanks space : Text} (allBlank : blanks.all isBlank = true)
    (apart : blanks ≠ []) (isSpace : isNamespace space = true) :
    Pattern.declaredNamespace.hit none ("@prefix".toList ++ blanks ++ (space ++ [':'])) =
      some (.after (7 + blanks.length) (space.length + 1)) := by
  have starts : startsWith "@prefix" ("@prefix".toList ++ blanks ++ (space ++ [':'])) = true := by
    rw [List.append_assoc]
    exact startsWith_iff.mpr (List.prefix_append _ _)
  have word : ("@prefix".toList ++ blanks ++ (space ++ [':'])).drop 7 =
      blanks ++ (space ++ [':']) := rfl
  have run : runLength isBlank (blanks ++ (space ++ [':'])) = blanks.length := by
    obtain ⟨c, rest, split⟩ : ∃ c rest, space ++ [':'] = c :: rest :=
      List.exists_cons_of_ne_nil (by simp)
    have named : ∀ c ∈ space ++ [':'], endsName c = false := named_name isSpace rfl
    have solid : isBlank c = false :=
      isBlank_of_named named c (by rw [split]; exact List.mem_cons_self)
    rw [split]
    exact runLength_word (List.all_eq_true.mp allBlank) solid rest
  simp only [Pattern.hit]
  rw [if_pos starts, word, run, if_neg (List.length_eq_zero_iff.not.mpr apart), ← List.drop_drop,
    word, List.drop_left, namespaceLength_of_isNamespace isSpace]
  rfl

/-- The rule for the word of a declaration. -/
def declarationRule : Rule := ⟨"prefix-keyword", .directive "@prefix", .keyword, 1, false⟩

/-- The rule for the namespace of a declaration. -/
def namespaceRule : Rule := ⟨"prefix-namespace", .declaredNamespace, .namespaceName, 1, false⟩

/-- The word of a declaration is found at its start and not again. -/
theorem coat_declarationRule {b : Char} (blank : isBlank b = true) {rest : Text}
    (unmarked : '@' ∉ rest) (right : Canvas) :
    declarationRule.coat none ("@prefix".toList ++ b :: rest) (Canvas.empty 7 ++ none :: right) =
      cellsIn .keyword "@prefix".toList ++ none :: right := by
  have foreign : b ∉ "@prefix".toList := not_mem_of_isBlank blank (by decide)
  have split := Pattern.matchesIn_append_cut (Pattern.hit_nil rfl)
    (fun before (tail : Text) (_ : tail <:+ "@prefix".toList) =>
      Pattern.hit_directive_append_cut foreign (isWord_of_isBlank blank) before tail rest) none
  have silent : declarationRule.pattern.Silent (some b) rest :=
    Pattern.silent_of_opener rfl unmarked _
  have word : declarationRule.coat none "@prefix".toList (Canvas.empty 7) =
      cellsIn .keyword "@prefix".toList := by decide +kernel
  rw [@Rule.coat_append_cut declarationRule "@prefix".toList rest b none split (Canvas.empty 7) rfl,
    Rule.coat_of_silent silent, word]

theorem wordCoats_declaration {blanks space : Text} (allBlank : blanks.all isBlank = true)
    (apart : blanks ≠ []) (isSpace : isNamespace space = true) :
    wordCoats none ("@prefix".toList ++ blanks ++ (space ++ [':']))
        (Canvas.empty ("@prefix".toList ++ blanks ++ (space ++ [':'])).length) =
      cellsIn .keyword "@prefix".toList ++ Canvas.empty blanks.length ++
        cellsIn .namespaceName (space ++ [':']) := by
  have named : ∀ c ∈ space ++ [':'], endsName c = false := named_name isSpace rfl
  have blank := List.all_eq_true.mp allBlank
  have size : (cellsIn .keyword "@prefix".toList ++ Canvas.empty blanks.length).length =
      ("@prefix".toList ++ blanks).length := by simp [cellsIn]
  have keyword : declarationRule.coat none ("@prefix".toList ++ blanks ++ (space ++ [':']))
      (Canvas.empty ("@prefix".toList ++ blanks ++ (space ++ [':'])).length) =
        cellsIn .keyword "@prefix".toList ++ Canvas.empty blanks.length ++
          Canvas.empty (space ++ [':']).length := by
    obtain ⟨b, others, rfl⟩ := List.exists_cons_of_ne_nil apart
    have unmarked : '@' ∉ others ++ (space ++ [':']) := by
      intro member
      rcases List.mem_append.mp member with inBlanks | inSpace
      · exact absurd (blank '@' (List.mem_cons_of_mem _ inBlanks)) (by decide)
      · exact not_mem_of_endsName (by decide) named inSpace
    have painted := coat_declarationRule (blank b List.mem_cons_self) unmarked
      (Canvas.empty others.length ++ Canvas.empty (space ++ [':']).length)
    rw [List.length_append, List.length_append, Canvas.empty_add, Canvas.empty_add]
    simpa [Canvas.empty, List.replicate_succ] using painted
  have declared := @Rule.coat_of_hit namespaceRule (forWords_of_mem (by decide)) none
    ("@prefix".toList ++ blanks) (space ++ [':']) _ (hit_declaredNamespace allBlank apart isSpace)
    (by rw [List.length_append]; rfl) (by simp [Hit.after]; omega) _ size
  have settled : Settled ("@prefix".toList ++ blanks ++ (space ++ [':']))
      (cellsIn .keyword "@prefix".toList ++ Canvas.empty blanks.length ++
        cellsIn .namespaceName (space ++ [':'])) := by
    refine Settled.append ?_ size (settled_cellsIn _ _)
    exact (settled_cellsIn _ _).append List.length_replicate
      (settled_empty fun c member => begins_of_isBlank (blank c member))
  have table : wordRules = declarationRule :: namespaceRule :: wordRules.drop 2 := rfl
  unfold wordCoats
  rw [table, List.foldl_cons, keyword, List.foldl_cons, declared]
  exact foldl_coat_eq_self fun rule member =>
    Rule.coat_of_settled (forWords_of_mem (List.mem_of_mem_drop member)) settled

end TurtleEdit
