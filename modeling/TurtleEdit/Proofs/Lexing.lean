import TurtleEdit.Proofs.Quotes

/-!
The standard rules give the tokens of a text their styles.

The rules for strings and comments leave a canvas on which the strings of the literals are painted
and nothing else is. Blanks divide what the rules for words find, as no token leaves a declaration
open, so that these rules paint each token for itself.
-/

namespace TurtleEdit

/-! ## Open declarations -/

/-- A declaration that is open at the end of a text lies behind every character that neither its
word nor blanks hold. -/
theorem suffix_of_openDeclaration {front back tail : Text} {c : Char}
    (foreign : c ∉ "@prefix".toList) (solid : isBlank c = false) (isOpen : OpenDeclaration tail)
    (ends : tail <:+ front ++ c :: back) : tail <:+ back := by
  obtain ⟨blanks, allBlank, rfl⟩ := isOpen
  obtain ⟨before, split⟩ := ends
  have outside : c ∉ "@prefix".toList ++ blanks := by
    intro member
    rcases List.mem_append.mp member with inWord | inBlanks
    · exact foreign inWord
    · rw [List.all_eq_true.mp allBlank c inBlanks] at solid
      cases solid
  rcases List.append_eq_append_iff.mp split with ⟨middle, -, same⟩ | ⟨middle, -, same⟩
  · rw [same] at outside
    exact absurd (List.mem_append_right _ List.mem_cons_self) outside
  · cases middle with
    | nil =>
      rw [List.nil_append] at same
      rw [← same] at outside
      exact absurd List.mem_cons_self outside
    | cons d rest => exact ⟨rest, (List.cons.inj same).2.symm⟩

theorem mark_mem_of_openDeclaration {tail back : Text} (isOpen : OpenDeclaration tail)
    (ends : tail <:+ back) : '@' ∈ back := by
  obtain ⟨blanks, -, rfl⟩ := isOpen
  exact ends.subset List.mem_cons_self

/-- A text does not end in an open declaration if such a character is followed by none that could
begin one. -/
theorem not_endsInOpenDeclaration {front back : Text} {c : Char}
    (foreign : c ∉ "@prefix".toList) (solid : isBlank c = false) (unmarked : '@' ∉ back) :
    ¬ EndsInOpenDeclaration (front ++ c :: back) := by
  rintro ⟨tail, ends, isOpen⟩
  have behind := suffix_of_openDeclaration foreign solid isOpen ends
  exact unmarked (mark_mem_of_openDeclaration isOpen behind)

/-- A language other than the word of a declaration does not open one. -/
theorem closed_language {tag : Text} (isTag : isLanguageTag tag = true)
    (other : tag ≠ "prefix".toList) (front : Text) :
    ¬ EndsInOpenDeclaration (front ++ '"' :: '@' :: tag) := by
  have named := named_tag isTag
  rintro ⟨tail, ends, isOpen⟩
  have behind := suffix_of_openDeclaration (by decide) (by decide) isOpen ends
  rcases List.suffix_cons_iff.mp behind with whole | inTag
  · obtain ⟨blanks, allBlank, rfl⟩ := isOpen
    have same : "prefix".toList ++ blanks = tag := (List.cons.inj whole).2
    cases blanks with
    | nil =>
      rw [List.append_nil] at same
      exact other same.symm
    | cons b rest =>
      have blank : isBlank b = true := List.all_eq_true.mp allBlank b List.mem_cons_self
      have inside : b ∈ tag := by
        rw [← same]
        exact List.mem_append_right _ List.mem_cons_self
      rw [isBlank_of_named named b inside] at blank
      cases blank
  · exact not_mem_of_endsName (by decide) named (mark_mem_of_openDeclaration isOpen inTag)

/-- No token ends in an open declaration. A declaration goes on to its colon, and elsewhere its word
is followed by a quote or a bracket, if it occurs at all. -/
theorem closed_token {token : List Piece} (isToken : IsToken token) :
    ¬ EndsInOpenDeclaration (textOf token) := by
  have closing : ∀ front : Text, ¬ EndsInOpenDeclaration (front ++ ['>']) := fun front =>
    not_endsInOpenDeclaration (by decide) (by decide) List.not_mem_nil
  have name : ∀ (front : Text) {part : Text}, isLocalPart part = true →
      ¬ EndsInOpenDeclaration (front ++ ':' :: part) := by
    intro front part isPart
    refine not_endsInOpenDeclaration (by decide) (by decide) fun member => ?_
    exact absurd (isNamespaceChar_of_mem_localPart isPart member) (by decide)
  cases isToken with
  | @declaration blanks space allBlank apart isSpace =>
    have nothing : isLocalPart [] = true := rfl
    simpa [textOf] using name ("@prefix".toList ++ blanks ++ space) nothing
  | base => decide
  | @iri iri plain => simpa [textOf] using closing ('<' :: iri)
  | blankNode isLabel filled => simpa [textOf] using name ['_'] isLabel
  | @name space part isSpace isPart other => simpa [textOf] using name space isPart
  | mark isMark =>
    obtain rfl | rfl | rfl | rfl | rfl | rfl := isMark_iff.mp isMark
    all_goals decide
  | @literal body suffix isBody isSuffix =>
    cases isSuffix with
    | nothing =>
      have quote : ¬ EndsInOpenDeclaration ('"' :: body ++ ['"']) :=
        not_endsInOpenDeclaration (by decide) (by decide) List.not_mem_nil
      simpa [textOf] using quote
    | language isTag other => simpa [textOf] using closed_language isTag other ('"' :: body)
    | @iri iri plain =>
      simpa [textOf] using closing ('"' :: (body ++ ['"']) ++ "^^".toList ++ '<' :: iri)
    | @name space part isSpace isPart =>
      simpa [textOf] using name ('"' :: (body ++ ['"']) ++ "^^".toList ++ space) isPart

/-! ## Whole texts -/

/-- The rules for words paint what stands on the two sides of a blank each for itself. -/
theorem wordCoats_append_blank {text : Text} (closed : ¬ EndsInOpenDeclaration text) {b : Char}
    (blank : isBlank b = true) (rest : Text) {left : Canvas} (size : left.length = text.length)
    (right : Canvas) :
    wordCoats none (text ++ b :: rest) (left ++ none :: right) =
      wordCoats none text left ++ none :: wordCoats none rest right := by
  refine foldl_coat_append_cut (fun rule member left cell right size => ?_) size none right
  have bound := Pattern.wordBound_of_inWord (forWords_of_mem member).inWord
  rw [← rule.coat_after_blank blank rest]
  exact Rule.coat_append_cut (Pattern.matchesIn_append_blank bound blank closed rest none) size
    cell right

/-- Blanks in front of a text stay unpainted. -/
theorem wordCoats_blanks_append {blanks : Text} (allBlank : blanks.all isBlank = true)
    (text : Text) (canvas : Canvas) :
    wordCoats none (blanks ++ text) (Canvas.empty blanks.length ++ canvas) =
      Canvas.empty blanks.length ++ wordCoats none text canvas := by
  induction blanks with
  | nil => rfl
  | cons b others ih =>
    rw [List.all_cons, Bool.and_eq_true] at allBlank
    have closed : ¬ EndsInOpenDeclaration [] := by decide
    have nothing : wordCoats none [] [] = [] := rfl
    have first := @wordCoats_append_blank [] closed b allBlank.1 (others ++ text) [] rfl
      (Canvas.empty others.length ++ canvas)
    rw [nothing, ih allBlank.2] at first
    exact first

/-- The rules for words give each token of a text its styles, if the strings have theirs. -/
theorem wordCoats_spaced {pieces : List Piece} (spaced : Spaced pieces) :
    wordCoats none (textOf pieces) (cellsOf (pieces.map Piece.asString)) = cellsOf pieces := by
  induction spaced with
  | nil => rfl
  | last isToken => exact wordCoats_token isToken
  | @next token rest blanks isToken allBlank apart spaced ih =>
    obtain ⟨b, others, rfl⟩ := List.exists_cons_of_ne_nil apart
    have text : textOf (token ++ ⟨none, b :: others⟩ :: rest) =
        textOf token ++ b :: (others ++ textOf rest) := textOf_append _ _
    have cells : cellsOf ((token ++ ⟨none, b :: others⟩ :: rest).map Piece.asString) =
        cellsOf (token.map Piece.asString) ++
          none :: (Canvas.empty others.length ++ cellsOf (rest.map Piece.asString)) := by
      rw [List.map_append, cellsOf_append]
      rfl
    have size : (cellsOf (token.map Piece.asString)).length = (textOf token).length := by
      rw [length_cellsOf, textOf_asString]
    rw [List.all_cons, Bool.and_eq_true] at allBlank
    rw [text, cells, wordCoats_append_blank (closed_token isToken) allBlank.1 _ size,
      wordCoats_blanks_append allBlank.2, wordCoats_token isToken, ih, cellsOf_append]
    rfl

/-- Tokens with blanks between them, before and after them, are highlighted each in its styles, and
nothing else is. -/
theorem classify_spaced {blanks : Text} (allBlank : blanks.all isBlank = true)
    {pieces : List Piece} (spaced : Spaced pieces) :
    classify standardRules (blanks ++ textOf pieces) 0 none =
      .ok (spansOf blanks.length pieces) := by
  have quoted : ∀ piece ∈ ⟨none, blanks⟩ :: pieces, piece.IsStringOrPlain :=
    List.forall_mem_cons.mpr ⟨Or.inr (Piece.plain_of_isBlank (by simp) allBlank),
      stringOrPlain_of_spaced spaced⟩
  have plain := (noTriple_spaced spaced).blanks_append allBlank
  have rules : standardRules = ⟨"long-string", .longString, .string, 0, false⟩ :: stringRule ::
      ⟨"comment", .comment, .comment, 1, false⟩ :: wordRules := rfl
  have strings : stringRule.coat none (blanks ++ textOf pieces)
      (Canvas.empty (blanks ++ textOf pieces).length) =
        Canvas.empty blanks.length ++ cellsOf (pieces.map Piece.asString) :=
    coat_stringRule quoted
  have comments : Uncommented (blanks ++ textOf pieces)
      (Canvas.empty blanks.length ++ cellsOf (pieces.map Piece.asString)) :=
    uncommented_pieces quoted
  have painted : coats standardRules (blanks ++ textOf pieces) =
      Canvas.empty blanks.length ++ cellsOf pieces := by
    rw [coats, rules, List.foldl_cons, Rule.coat_of_noTriple rfl plain, List.foldl_cons, strings,
      List.foldl_cons, Rule.coat_of_uncommented rfl (by decide) rfl comments]
    refine (wordCoats_blanks_append allBlank _ _).trans ?_
    rw [wordCoats_spaced spaced]
  rw [classify_whole groupExists_standardRules, painted, Canvas.empty,
    Canvas.spans_replicate_none, spans_spaced spaced, Nat.zero_add]

/-- A document with every kind of token. The string with a language holds what elsewhere would be a
comment, a declaration, an iri, a node and a type. -/
theorem classify_spaced_document :
    classify standardRules
        ("\n@prefix \t\nex:  <u#v> .\n@base <> . _:b.1 a [ ex:a.b " ++
          "\"# @prefix p: <q> \\\" _:c ^^d:e <\"@en-GB , \"1\"^^<t> ; " ++
          "\"2\"^^ex:t ] :\t.\n").toList 0 none =
      .ok [⟨1, 8, .keyword⟩, ⟨11, 14, .namespaceName⟩, ⟨16, 21, .iri⟩, ⟨22, 23, .punctuation⟩,
        ⟨24, 29, .keyword⟩, ⟨30, 32, .iri⟩, ⟨33, 34, .punctuation⟩, ⟨35, 40, .blankNode⟩,
        ⟨41, 42, .punctuation⟩, ⟨43, 44, .punctuation⟩, ⟨45, 51, .prefixedName⟩,
        ⟨52, 85, .string⟩, ⟨85, 91, .language⟩, ⟨92, 93, .punctuation⟩, ⟨94, 97, .string⟩,
        ⟨99, 102, .datatypeIri⟩, ⟨103, 104, .punctuation⟩, ⟨105, 108, .string⟩,
        ⟨110, 114, .datatypeName⟩, ⟨115, 116, .punctuation⟩, ⟨117, 118, .prefixedName⟩,
        ⟨119, 120, .punctuation⟩] := by
  have token : ∀ {token rest : List Piece}, IsToken token → Spaced rest →
      Spaced (token ++ ⟨none, " ".toList⟩ :: rest) := fun isToken spaced =>
    .next isToken rfl (by decide) spaced
  have mark : ∀ (c : Char), isMark c = true → IsToken [⟨some .punctuation, [c]⟩] :=
    fun _ isMark => .mark isMark
  have language : IsSuffix [⟨some .language, '@' :: "en-GB".toList⟩] :=
    .language (by decide) (by decide)
  have spaced :=
    @Spaced.next _ _ "  ".toList
      (@IsToken.declaration " \t\n".toList "ex".toList rfl (by decide) rfl) rfl (by decide) <|
    token (@IsToken.iri "u#v".toList rfl) <|
    @Spaced.next _ _ "\n".toList (mark '.' rfl) rfl (by decide) <|
    token .base <| token (@IsToken.iri [] rfl) <| token (mark '.' rfl) <|
    token (@IsToken.blankNode "b.1".toList (by decide) (by decide)) <|
    token (mark 'a' rfl) <| token (mark '[' rfl) <|
    token (@IsToken.name "ex".toList "a.b".toList (by decide) (by decide) (by decide)) <|
    token (@IsToken.literal "# @prefix p: <q> \\\" _:c ^^d:e <".toList _ (by decide) language) <|
    token (mark ',' rfl) <|
    token (@IsToken.literal "1".toList _ (by decide) (@IsSuffix.iri "t".toList rfl)) <|
    token (mark ';' rfl) <|
    token (@IsToken.literal "2".toList _ (by decide)
      (@IsSuffix.name "ex".toList "t".toList (by decide) (by decide))) <|
    token (mark ']' rfl) <|
    @Spaced.next _ _ "\t".toList (@IsToken.name [] [] rfl rfl (by decide)) rfl (by decide) <|
    @Spaced.next _ _ "\n".toList (mark '.' rfl) rfl (by decide) .nil
  have painted := @classify_spaced "\n".toList rfl _ spaced
  refine Eq.trans (congrArg (classify standardRules · 0 none) ?_)
    (painted.trans (congrArg Except.ok ?_))
  · decide +kernel
  · decide +kernel

end TurtleEdit
