import TurtleEdit.Proofs.TokenStyles

/-!
The rules for words on a string and its suffix.

Whatever these rules find in a string begins on a painted character, and what they would paint of it
begins there too, because they skip no quote. A match that begins in the string ends with it at the
latest: a quote ends every pattern but that of iris, and an iri that is opened in the string finds
no closing bracket in a suffix before another opening one. So a suffix is painted as if it stood
alone after a quote.
-/

namespace TurtleEdit

/-! ## Matches that begin in a string -/

/-- The characters of iris at the start of the text are followed by a closing bracket. -/
def ClosesIri (text : Text) : Prop := (text.dropWhile isIriChar).head? = some '>'

/-- An iri opened before a quote is closed before it, if the text after the quote closes none. -/
theorem iriLength_le_of_quote {text suffix : Text} (closed : ¬ ClosesIri suffix) {n : Nat}
    (found : iriLength (text ++ '"' :: suffix) = some n) : n ≤ text.length := by
  have inIri : isIriChar '"' = true := by decide
  obtain ⟨tail, rfl⟩ : ∃ tail, text = '<' :: tail := by
    have first := head?_of_iriLength found
    cases text with
    | nil => cases first
    | cons c tail =>
      cases first
      exact ⟨tail, rfl⟩
  rw [List.cons_append, iriLength_cons] at found
  split at found
  · next closes =>
    cases found
    by_cases plain : ∀ c ∈ tail, isIriChar c = true
    · -- the bracket would be one of the suffix
      rw [List.dropWhile_append_of_pos plain, List.dropWhile_cons_of_pos inIri] at closes
      refine absurd ?_ closed
      cases rest : (suffix.dropWhile isIriChar).head? with
      | none =>
        rw [rest] at closes
        cases closes
      | some c =>
        rw [rest] at closes
        rw [ClosesIri, rest, eq_of_beq closes]
    · have shorter : (tail.takeWhile isIriChar).length < tail.length := by
        refine Nat.lt_of_le_of_ne (runLength_le isIriChar tail) fun same => plain ?_
        have whole := (List.takeWhile_prefix isIriChar).eq_of_length same
        rw [← whole]
        exact List.all_eq_true.mp List.all_takeWhile
      rw [runLength, List.takeWhile_append, if_neg (Nat.ne_of_lt shorter), List.length_cons]
      omega
  · cases found

theorem Pattern.hit_declaredNamespace_append_quote (before : Option Char) (text rest : Text) :
    declaredNamespace.hit before (text ++ '"' :: rest) = declaredNamespace.hit before text := by
  simp only [hit]
  rw [startsWith_append_cut (by decide)]
  cases starts : startsWith "@prefix" text with
  | false => rfl
  | true =>
    have size : 7 ≤ text.length := length_le_of_startsWith starts
    have run := runLength_le isBlank (text.drop 7)
    rw [List.length_drop] at run
    rw [drop_append_cut size, runLength_append_cut (by decide), drop_append_cut (by omega),
      namespaceLength_append_cut (by decide)]

/-- A match that begins before a quote ends with the quote at the latest. -/
theorem Pattern.length_le_of_quote {pattern : Pattern} (inWord : pattern.inWord = true)
    {before : Option Char} {text suffix : Text} (closed : ¬ ClosesIri suffix) {hit : Hit}
    (found : pattern.hit before (text ++ '"' :: suffix) = some hit) :
    hit.length ≤ text.length + 1 := by
  have within : pattern.hit before text = some hit → hit.length ≤ text.length + 1 := fun alone =>
    Nat.le_succ_of_le (hit_within alone).length_le
  cases pattern <;> simp only [Pattern.inWord, wordBound, Bool.false_eq_true] at inWord
  case directive word =>
    simp only [Bool.and_eq_true, List.all_eq_true, bne_iff_ne] at inWord
    have foreign : '"' ∉ word.toList := fun member => (inWord.2 _ member).2 rfl
    rw [hit_directive_append_cut foreign (by decide)] at found
    exact within found
  case declaredNamespace =>
    rw [hit_declaredNamespace_append_quote] at found
    exact within found
  case datatypeName | language | blankNode | prefixedName =>
    rw [hit_append_named rfl (by decide) (by decide)] at found
    exact within found
  all_goals simp only [Pattern.hit] at found
  case datatypeIri =>
    rw [startsWith_append_cut (by decide)] at found
    split at found
    · next starts =>
      have size : 2 ≤ text.length := length_le_of_startsWith starts
      rw [drop_append_cut size] at found
      obtain ⟨n, body, rfl⟩ := Option.map_eq_some_iff.mp found
      have short := iriLength_le_of_quote closed body
      rw [List.length_drop] at short
      simp only [Hit.after]
      omega
    · cases found
  case iri =>
    obtain ⟨n, body, rfl⟩ := Option.map_eq_some_iff.mp found
    exact Nat.le_succ_of_le (iriLength_le_of_quote closed body)
  case punctuation =>
    split at found
    · split at found
      · cases found
        exact Nat.le_add_left 1 _
      · cases found
    · cases found

/-- A rule for words paints a suffix as if it stood alone after a quote. -/
theorem Rule.coat_literal {rule : Rule} (forWords : rule.ForWords) (inner : Text) {suffix : Text}
    (closed : ¬ ClosesIri suffix) (right : Canvas) :
    rule.coat none (inner ++ ['"'] ++ suffix) (cellsIn .string (inner ++ ['"']) ++ right) =
      cellsIn .string (inner ++ ['"']) ++ rule.coat (some '"') suffix right := by
  have size : (inner ++ ['"']).length = inner.length + 1 := by simp
  have cells : (cellsIn .string (inner ++ ['"'])).length = inner.length + 1 := by
    rw [cellsIn, List.length_replicate, size]
  have stays : ∀ before tail hit, tail <:+ inner ++ ['"'] → tail ≠ [] →
      rule.pattern.hit before (tail ++ suffix) = some hit → hit.length ≤ tail.length := by
    rintro before tail hit ⟨front, split⟩ filled found
    obtain rfl | ⟨text, c, rfl⟩ := List.eq_nil_or_concat' tail
    · exact absurd rfl filled
    · rw [← List.append_assoc] at split
      cases (List.append_inj' split rfl).2
      rw [List.append_assoc] at found
      have short := Pattern.length_le_of_quote forWords.inWord closed found
      rwa [List.length_append]
  obtain ⟨found, same, early⟩ :=
    Pattern.exists_matchesFrom_append stays 0 (Nat.zero_le _) none
  have last : Pattern.charBefore none (inner ++ ['"']) (inner ++ ['"']).length = some '"' := by
    rw [Pattern.charBefore, List.take_length, List.getLast?_concat]
    rfl
  have later := Pattern.matchesFrom_add rule.pattern (inner.length + 1) 0 0 (some '"') suffix
  rw [last, Nat.zero_add, size] at same
  rw [Nat.add_zero] at later
  -- what is found in the string would be painted from a painted character on
  have inside : found.foldl rule.paint (cellsIn .string (inner ++ ['"']) ++ right) =
      cellsIn .string (inner ++ ['"']) ++ right := by
    refine foldl_paint_eq_self forWords.keeps fun m member part aims => ?_
    have inText : m ∈ rule.pattern.matchesFrom 0 0 none (inner ++ ['"'] ++ suffix) := by
      rw [same]
      exact List.mem_append_left _ member
    have starts := early m member
    obtain ⟨k, hit, here, rfl, -⟩ := Pattern.hit_of_mem_matchesFrom inText
    rw [Nat.zero_add] at aims
    simp only [Hit.place, Nat.zero_add, size] at starts
    rw [target_place forWords here] at aims
    cases aims
    have clear := (Pattern.hit_aims forWords.inWord here).clear
    have reached : k + hit.skip < inner.length + 1 := by
      by_contra beyond
      refine clear (List.mem_iff_getElem?.mpr ⟨inner.length - k, ?_⟩)
      rw [List.getElem?_take_of_lt (by omega), List.getElem?_drop,
        Nat.add_sub_cancel' (Nat.le_of_lt_succ starts)]
      simp
    refine ⟨.string, ?_⟩
    rw [List.getElem?_append_left (by omega), cellsIn, List.getElem?_replicate,
      if_pos (by omega)]
  have shifted := foldl_paint_append_right rule (rule.pattern.matchesIn (some '"') suffix)
    (cellsIn .string (inner ++ ['"'])) right
  rw [coat, Pattern.matchesIn, same, List.foldl_append, inside, later]
  rw [cells] at shifted
  exact shifted

/-- The rules for words paint a suffix as if it stood alone after a quote. -/
theorem wordCoats_literal (inner : Text) {suffix : Text} (closed : ¬ ClosesIri suffix)
    (right : Canvas) :
    wordCoats none (inner ++ ['"'] ++ suffix) (cellsIn .string (inner ++ ['"']) ++ right) =
      cellsIn .string (inner ++ ['"']) ++ wordCoats (some '"') suffix right := by
  have forWords := @forWords_of_mem
  unfold wordCoats
  generalize wordRules = rules at forWords ⊢
  induction rules generalizing right with
  | nil => rfl
  | cons rule rest ih =>
    rw [List.foldl_cons, List.foldl_cons,
      Rule.coat_literal (forWords List.mem_cons_self) inner closed]
    exact ih _ fun later => forWords (List.mem_cons_of_mem _ later)

/-! ## Languages -/

/-- The first piece of a split text stands at its start, and the text after it is split further. -/
theorem eq_append_of_splitAt {sep : Char} {text piece : Text} {pieces : List Text}
    (split : splitAt sep text = piece :: pieces) :
    (pieces = [] ∧ text = piece) ∨
      ∃ tail, text = piece ++ sep :: tail ∧ splitAt sep tail = pieces := by
  induction text generalizing piece pieces with
  | nil =>
    cases split
    exact Or.inl ⟨rfl, rfl⟩
  | cons c rest ih =>
    cases later : splitAt sep rest with
    | nil => exact absurd later (splitAt_ne_nil _ _)
    | cons first others =>
      rw [splitAt, later] at split
      by_cases divides : c = sep
      · rw [if_pos divides] at split
        cases split
        exact Or.inr ⟨rest, by rw [divides, List.nil_append], later⟩
      · rw [if_neg divides] at split
        cases split
        rcases ih later with ⟨rfl, rfl⟩ | ⟨tail, rfl, inTail⟩
        · exact Or.inl ⟨rfl, rfl⟩
        · exact Or.inr ⟨tail, rfl, inTail⟩

/-- A language is a run of letters, and maybe a hyphen and subtags. -/
theorem exists_of_isLanguageTag {tag : Text} (isTag : isLanguageTag tag = true) :
    ∃ first rest, tag = first ++ rest ∧ first ≠ [] ∧ (∀ c ∈ first, c.isAlpha = true) ∧
      (rest = [] ∨ ∃ tail, rest = '-' :: tail ∧
        runsFrom '-' Char.isAlphanum false tail = true) := by
  unfold isLanguageTag at isTag
  split at isTag
  · next first subtags split =>
    simp only [Bool.and_eq_true, Bool.not_eq_true', List.isEmpty_eq_false_iff] at isTag
    obtain ⟨⟨filled, letters⟩, others⟩ := isTag
    rcases eq_append_of_splitAt split with ⟨-, rfl⟩ | ⟨tail, rfl, inTail⟩
    · exact ⟨tag, [], (List.append_nil _).symm, filled, List.all_eq_true.mp letters, Or.inl rfl⟩
    · refine ⟨first, '-' :: tail, rfl, filled, List.all_eq_true.mp letters, Or.inr ⟨tail, rfl, ?_⟩⟩
      cases subtags with
      | nil => exact absurd inTail (splitAt_ne_nil _ _)
      | cons piece pieces =>
        rw [← all_splitAt_eq_runsFrom inTail, ← others, List.all_cons]
        simp
  · cases isTag

theorem named_tag {tag : Text} (isTag : isLanguageTag tag = true) :
    ∀ c ∈ tag, endsName c = false := by
  obtain ⟨first, rest, rfl, -, letters, ends⟩ := exists_of_isLanguageTag isTag
  have letter : ∀ {c : Char}, c.isAlphanum = true → endsName c = false := fun inTag =>
    endsName_of_isNamespaceChar (isNamespaceChar_of_isAlphanum inTag)
  intro c member
  rcases List.mem_append.mp member with inFirst | inRest
  · refine letter ?_
    rw [Char.isAlphanum, letters c inFirst, Bool.true_or]
  · rcases ends with rfl | ⟨tail, rfl, runs⟩
    · cases inRest
    · rcases List.mem_cons.mp inRest with rfl | inTail
      · decide
      · rcases mem_of_runsFrom runs inTail with rfl | inTag
        · decide
        · exact letter inTag

/-- A language after a quote is found as a whole. -/
theorem hit_language {tag : Text} (isTag : isLanguageTag tag = true) :
    Pattern.language.hit (some '"') ('@' :: tag) = some (.grouped ('@' :: tag).length) := by
  obtain ⟨first, rest, rfl, filled, letters, ends⟩ := exists_of_isLanguageTag isTag
  have run : runLength Char.isAlpha (first ++ rest) = first.length := by
    rcases ends with rfl | ⟨tail, rfl, -⟩
    · rw [runLength, List.takeWhile_append_of_pos letters, List.takeWhile_nil, List.append_nil]
    · exact runLength_word letters (by decide) tail
  have subtags : subtagsLength false rest = rest.length := by
    rcases ends with rfl | ⟨tail, rfl, runs⟩
    · rfl
    · obtain ⟨starts, inTail⟩ := head?_of_runsFrom runs
      rw [subtagsLength_cons, starts, subtagsLength_of_runsFrom inTail]
      rfl
  simp only [Pattern.hit]
  rw [run, if_pos ⟨trivial, List.length_eq_zero_iff.not.mpr filled⟩, List.drop_left, subtags,
    List.length_cons, List.length_append]
  congr 2
  omega

/-! ## Suffixes -/

theorem wordCoats_language {tag : Text} (isTag : isLanguageTag tag = true) :
    wordCoats (some '"') ('@' :: tag) (Canvas.empty ('@' :: tag).length) =
      cellsIn .language ('@' :: tag) := by
  have solid : ∀ c ∈ '@' :: tag, isBlank c = false :=
    List.forall_mem_cons.mpr ⟨by decide, isBlank_of_named (named_tag isTag)⟩
  have noCaret : '^' ∉ '@' :: tag := by
    refine List.not_mem_cons_of_ne_of_not_mem (by decide) ?_
    exact not_mem_of_endsName (by decide) (named_tag isTag)
  have silent : ∀ rule ∈ wordRules.take 5, rule.pattern.Silent (some '"') ('@' :: tag) := by
    refine List.forall_mem_append.mpr ⟨silent_declarations solid (Or.inl (by decide)), ?_⟩
    exact List.forall_mem_cons.mpr ⟨Pattern.silent_of_opener rfl noCaret _,
      List.forall_mem_singleton.mpr (Pattern.silent_of_opener rfl noCaret _)⟩
  exact @wordCoats_word (wordRules.take 5) (wordRules.drop 6)
    ⟨"language", .language, .language, 1, false⟩ rfl _ _ silent _ (hit_language isTag) rfl rfl

/-- Two carets before a text without blanks leave it without blanks. -/
theorem solid_carets {word : Text} (solid : ∀ c ∈ word, isBlank c = false) :
    ∀ c ∈ "^^".toList ++ word, isBlank c = false := by
  have carets : ∀ c ∈ "^^".toList, isBlank c = false :=
    List.forall_mem_cons.mpr ⟨by decide, List.forall_mem_singleton.mpr (by decide)⟩
  exact List.forall_mem_append.mpr ⟨carets, solid⟩

/-- The type of a literal is painted without the carets before it. -/
theorem wordCoats_typed {quiet later : List Rule} {painter : Rule}
    (table : wordRules = quiet ++ painter :: later) {word : Text}
    (silent : ∀ rule ∈ quiet, rule.pattern.Silent (some '"') ("^^".toList ++ word))
    (found : painter.pattern.hit (some '"') ("^^".toList ++ word) = some (.after 2 word.length)) :
    wordCoats (some '"') ("^^".toList ++ word) (Canvas.empty ("^^".toList ++ word).length) =
      Canvas.empty 2 ++ cellsIn painter.style word := by
  have carets : ∀ c ∈ "^^".toList, begins c = false :=
    List.forall_mem_cons.mpr ⟨by decide, List.forall_mem_singleton.mpr (by decide)⟩
  refine wordCoats_of_hit table silent found rfl ?_ carets
  rw [List.length_append]
  rfl

theorem startsWith_carets (word : Text) : startsWith "^^" ("^^".toList ++ word) = true :=
  startsWith_iff.mpr (List.prefix_append _ _)

theorem wordCoats_datatypeIri {iri : Text} (plain : isPlainIri iri = true) :
    wordCoats (some '"') ("^^".toList ++ '<' :: (iri ++ ['>']))
        (Canvas.empty ("^^".toList ++ '<' :: (iri ++ ['>'])).length) =
      Canvas.empty 2 ++ cellsIn .datatypeIri ('<' :: (iri ++ ['>'])) := by
  have solid := solid_carets fun c member => (solid_iri plain c member).1
  have silent := @silent_declarations (some '"') _ solid (Or.inl (by decide))
  refine @wordCoats_typed (wordRules.take 3) (wordRules.drop 4)
    ⟨"datatype-uri", .datatypeIri, .datatypeIri, 1, false⟩ rfl _ silent ?_
  have after : ("^^".toList ++ '<' :: (iri ++ ['>'])).drop 2 = '<' :: (iri ++ ['>']) := rfl
  simp only [Pattern.hit]
  rw [if_pos (startsWith_carets _), after, iriLength_of_isPlainIri plain, Option.map_some]

theorem wordCoats_datatypeName {space part : Text} (isSpace : isNamespace space = true)
    (isPart : isLocalPart part = true) :
    wordCoats (some '"') ("^^".toList ++ (space ++ ':' :: part))
        (Canvas.empty ("^^".toList ++ (space ++ ':' :: part)).length) =
      Canvas.empty 2 ++ cellsIn .datatypeName (space ++ ':' :: part) := by
  have named := named_name isSpace isPart
  have solid := solid_carets (isBlank_of_named named)
  have noBracket : '<' ∉ "^^".toList ++ (space ++ ':' :: part) := by
    intro member
    rcases List.mem_append.mp member with inCarets | inName
    · exact absurd inCarets (by decide)
    · exact not_mem_of_endsName (by decide) named inName
  have silent : ∀ rule ∈ wordRules.take 4,
      rule.pattern.Silent (some '"') ("^^".toList ++ (space ++ ':' :: part)) := by
    exact List.forall_mem_append.mpr ⟨silent_declarations solid (Or.inl (by decide)),
      List.forall_mem_singleton.mpr (Pattern.silent_datatypeIri noBracket _)⟩
  refine @wordCoats_typed (wordRules.take 4) (wordRules.drop 5)
    ⟨"datatype-name", .datatypeName, .datatypeName, 1, false⟩ rfl _ silent ?_
  have after : ("^^".toList ++ (space ++ ':' :: part)).drop 2 = space ++ ':' :: part := rfl
  simp only [Pattern.hit]
  rw [if_pos (startsWith_carets _), after, nameLength_of_isNamespace isSpace isPart,
    Option.map_some]

theorem wordCoats_suffix {suffix : List Piece} (isSuffix : IsSuffix suffix) :
    wordCoats (some '"') (textOf suffix) (Canvas.empty (textOf suffix).length) =
      cellsOf suffix := by
  cases isSuffix with
  | nothing => rfl
  | language isTag other => simpa [textOf, cellsOf, cellsIn] using wordCoats_language isTag
  | iri plain =>
    simpa [textOf, cellsOf, cellsIn, Canvas.empty] using wordCoats_datatypeIri plain
  | name isSpace isPart =>
    simpa [textOf, cellsOf, cellsIn, Canvas.empty] using wordCoats_datatypeName isSpace isPart

/-- A text of characters of iris closes none. -/
theorem not_closesIri_of_all {text : Text} (inIri : ∀ c ∈ text, isIriChar c = true) :
    ¬ ClosesIri text := by
  have all := @List.dropWhile_append_of_pos _ isIriChar text [] inIri
  rw [List.append_nil] at all
  rw [ClosesIri, all]
  exact fun same => nomatch same

theorem isIriChar_of_named {text : Text} (named : ∀ d ∈ text, endsName d = false) :
    ∀ c ∈ text, isIriChar c = true := by
  intro c member
  have solid := isBlank_of_named named c member
  have opening : c ≠ '<' := by
    rintro rfl
    exact not_mem_of_endsName (by decide) named member
  have closing : c ≠ '>' := by
    rintro rfl
    exact not_mem_of_endsName (by decide) named member
  simp [isIriChar, solid, opening, closing]

theorem not_closesIri_suffix {suffix : List Piece} (isSuffix : IsSuffix suffix) :
    ¬ ClosesIri (textOf suffix) := by
  cases isSuffix with
  | nothing =>
    intro same
    cases same
  | language isTag other =>
    refine not_closesIri_of_all ?_
    have inIri := isIriChar_of_named (named_tag isTag)
    simpa [textOf] using ⟨by decide, inIri⟩
  | iri plain =>
    intro same
    cases same
  | name isSpace isPart =>
    refine not_closesIri_of_all ?_
    have inIri := isIriChar_of_named (named_name isSpace isPart)
    have carets : ∀ c ∈ "^^".toList, isIriChar c = true :=
      List.forall_mem_cons.mpr ⟨by decide, List.forall_mem_singleton.mpr (by decide)⟩
    simpa [textOf] using List.forall_mem_append.mpr ⟨carets, inIri⟩

/-! ## Tokens -/

/-- A piece before the rules for words: only strings are painted. -/
def Piece.asString (piece : Piece) : Piece :=
  if piece.style = some .string then piece else ⟨none, piece.text⟩

@[simp]
theorem Piece.text_asString (piece : Piece) : piece.asString.text = piece.text := by
  unfold asString
  split <;> rfl

theorem textOf_asString (pieces : List Piece) :
    textOf (pieces.map Piece.asString) = textOf pieces := by
  simp [textOf, List.flatMap_map]

theorem cellsOf_asString {pieces : List Piece}
    (others : ∀ piece ∈ pieces, piece.style ≠ some .string) :
    cellsOf (pieces.map Piece.asString) = Canvas.empty (textOf pieces).length := by
  induction pieces with
  | nil => rfl
  | cons piece rest ih =>
    have first : piece.asString = ⟨none, piece.text⟩ := if_neg (others piece List.mem_cons_self)
    have later := ih fun other member => others other (List.mem_cons_of_mem _ member)
    rw [cellsOf] at later
    rw [cellsOf, textOf, List.map_cons, first, List.flatMap_cons, List.flatMap_cons, later,
      List.length_append, Canvas.empty_add]
    rfl

theorem style_of_mem_suffix {suffix : List Piece} (isSuffix : IsSuffix suffix) :
    ∀ piece ∈ suffix, piece.style ≠ some .string := by
  cases isSuffix <;> simp

/-- The rules for words give each token its styles, if its string has its own. -/
theorem wordCoats_token {token : List Piece} (isToken : IsToken token) :
    wordCoats none (textOf token) (cellsOf (token.map Piece.asString)) = cellsOf token := by
  cases isToken with
  | declaration allBlank apart isSpace =>
    rw [cellsOf_asString (by simp)]
    simpa [textOf, cellsOf, cellsIn, Canvas.empty] using
      wordCoats_declaration allBlank apart isSpace
  | base => exact wordCoats_base
  | iri plain =>
    rw [cellsOf_asString (by simp)]
    simpa [textOf, cellsOf, cellsIn] using wordCoats_iri plain
  | blankNode isLabel filled =>
    rw [cellsOf_asString (by simp)]
    simpa [textOf, cellsOf, cellsIn] using wordCoats_blankNode isLabel filled
  | name isSpace isPart other =>
    rw [cellsOf_asString (by simp)]
    simpa [textOf, cellsOf, cellsIn] using wordCoats_name isSpace isPart other
  | mark isMark => exact wordCoats_mark isMark
  | @literal body suffix isBody isSuffix =>
    have cells : cellsOf ((⟨some .string, '"' :: (body ++ ['"'])⟩ :: suffix).map Piece.asString) =
        cellsIn .string ('"' :: body ++ ['"']) ++ Canvas.empty (textOf suffix).length := by
      rw [← cellsOf_asString (style_of_mem_suffix isSuffix)]
      rfl
    have painted := wordCoats_literal ('"' :: body) (not_closesIri_suffix isSuffix)
      (Canvas.empty (textOf suffix).length)
    rw [wordCoats_suffix isSuffix] at painted
    rw [cells]
    exact painted

end TurtleEdit
