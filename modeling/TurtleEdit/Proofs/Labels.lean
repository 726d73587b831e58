import TurtleEdit.Proofs.Overhangs
import TurtleEdit.Proofs.Quotes

/-!
Names by themselves.

A name is a word that only two rules find anything in, the one for labels of nodes and the one for
names. The first of them does not look at what stands before a label, so that it takes an underscore
at the end of a namespace, the colon and the local part for a label; the rule for names then paints
what is left of the name. Without such an underscore, or without a local part, a name is painted
whole.
-/

namespace TurtleEdit

/-- The end of a name reads as the label of a node: an underscore stands right before the colon, and
a local part behind it. -/
def EndsInLabel (space part : Text) : Prop := space.getLast? = some '_' ∧ part ≠ []

/-- A namespace that ends in an underscore has a letter before it. -/
theorem exists_of_endsInLabel {space part : Text} (isSpace : isNamespace space = true)
    (ends : EndsInLabel space part) : ∃ front, front ≠ [] ∧ space = front ++ ['_'] := by
  obtain ⟨front, rfl⟩ := List.getLast?_eq_some_iff.mp ends.1
  refine ⟨front, ?_, rfl⟩
  rintro rfl
  exact absurd isSpace (by decide)

/-! ## Rules before those for words -/

/-- The rules for strings and comments leave a text of characters of names to the others. -/
theorem coats_of_named {text : Text} (named : ∀ c ∈ text, endsName c = false) :
    coats standardRules text = wordCoats none text (Canvas.empty text.length) := by
  have unquoted : '"' ∉ text := not_mem_of_endsName (by decide) named
  have rules : standardRules = ⟨"long-string", .longString, .string, 0, false⟩ :: stringRule ::
      ⟨"comment", .comment, .comment, 1, false⟩ :: wordRules := rfl
  have silent : stringRule.pattern.Silent none text := by
    intro k
    change Pattern.string.hit _ (text.drop k) = none
    simp only [Pattern.hit]
    split
    · next rest here => exact absurd (List.mem_of_mem_drop (here ▸ List.mem_cons_self)) unquoted
    · rfl
  have uncommented := uncommented_of_not_mem (not_mem_of_endsName (by decide) named)
    (Canvas.empty text.length)
  rw [coats, rules, List.foldl_cons, Rule.coat_of_noTriple rfl (noTriple_of_not_mem unquoted),
    List.foldl_cons, Rule.coat_of_silent silent, List.foldl_cons,
    Rule.coat_of_uncommented rfl (by decide) rfl uncommented]
  rfl

/-! ## A label at the end of a name -/

/-- A rule that finds nothing in the first part of a text paints the second part for itself. -/
theorem Rule.coat_append_of_silent {rule : Rule} {before : Option Char} {front word : Text}
    (silent : ∀ k, k < front.length → rule.pattern.hit
      (Pattern.charBefore before (front ++ word) k) ((front ++ word).drop k) = none)
    {left : Canvas} (size : left.length = front.length) (right : Canvas) :
    rule.coat before (front ++ word) (left ++ right) =
      left ++ rule.coat (Pattern.charBefore before front front.length) word right := by
  have passed := Pattern.matchesFrom_of_silent 0 (by simp) silent
  have later := Pattern.matchesFrom_add rule.pattern front.length 0 0
    (Pattern.charBefore before front front.length) word
  rw [Nat.add_zero] at later
  rw [coat, Pattern.matchesIn, passed, Pattern.matchesFrom_length_append, Nat.zero_add, later,
    ← size, foldl_paint_append_right]
  rfl

/-- A label begins in a name at the underscore before its colon, if at all. -/
theorem length_of_startsWith_label {space part : Text} (isSpace : isNamespace space = true)
    (isPart : isLocalPart part = true) {k : Nat}
    (starts : startsWith "_:" ((space ++ ':' :: part).drop k) = true) : space.length = k + 1 := by
  have noColon : isNamespaceChar ':' ≠ true := by decide
  have notInSpace : ':' ∉ space := fun member =>
    noColon (isNamespaceChar_of_mem_namespace isSpace member)
  have notInPart : ':' ∉ part := fun member =>
    noColon (isNamespaceChar_of_mem_localPart isPart member)
  obtain ⟨rest, here⟩ := startsWith_iff.mp starts
  have size := congrArg List.length here
  rw [List.length_append, List.length_drop] at size
  have whole : space ++ ':' :: part = ((space ++ ':' :: part).take k ++ ['_']) ++ ':' :: rest := by
    rw [List.append_assoc]
    exact (List.take_append_drop k _).symm.trans (congrArg _ here.symm)
  have same := ((List.append_cons_inj_of_notMem notInSpace notInPart).mp whole).1
  rw [same, List.length_append, List.length_take]
  simp at size ⊢
  omega

/-- Filling a canvas whose end is painted paints what is in front of it. -/
theorem Canvas.fill_before_styled (size : Nat) {painted : Canvas}
    (styled : ∀ cell ∈ painted, cell ≠ none) (style : Style) :
    (Canvas.empty size ++ painted).fill 0 (size + painted.length) style false =
      List.replicate size (some style) ++ painted := by
  apply List.ext_getElem?
  intro i
  rw [Canvas.getElem?_fill]
  by_cases near : i < size
  · rw [List.getElem?_append_left (by simpa using near), List.getElem?_append_left (by simpa),
      Canvas.empty, List.getElem?_replicate, List.getElem?_replicate, if_pos near, if_pos near,
      Option.map_some, if_pos ⟨Nat.zero_le i, by omega, Or.inr rfl⟩]
  · rw [List.getElem?_append_right (by simpa using near),
      List.getElem?_append_right (by simpa using near), Canvas.length_empty, List.length_replicate]
    cases cell : painted[i - size]? with
    | none => rfl
    | some old =>
      have kept := styled old (List.mem_of_getElem? cell)
      rw [Option.map_some, if_neg fun fills => kept (by simpa using fills.2.2)]

/-- A rule that finds a whole text whose start is unpainted fills it. -/
theorem Rule.coat_of_whole {rule : Rule} (forWords : rule.ForWords) {before : Option Char}
    {text : Text} (found : rule.pattern.hit before text = some (.whole text.length))
    {canvas : Canvas} (free : canvas[0]?.join = none) :
    rule.coat before text canvas = canvas.fill 0 text.length rule.style false := by
  have bound := Pattern.lineBound_of_wordBound (Pattern.wordBound_of_inWord forWords.inWord)
  have aims := target_place forWords found 0
  rw [coat, Pattern.matchesIn_of_hit bound found rfl, List.foldl_cons, List.foldl_nil, paint, aims]
  simp only [Hit.skip, Hit.whole, Nat.zero_add, free, forWords.keeps, Option.isNone_none,
    Bool.or_true, if_true]

/-- The rule for labels. -/
def labelRule : Rule := ⟨"blank-node", .blankNode, .blankNode, 0, false⟩

/-- The rule for names. -/
def nameRule : Rule := ⟨"prefixed-name", .prefixedName, .prefixedName, 0, false⟩

theorem wordRules_eq_labels :
    wordRules = wordRules.take 7 ++ labelRule :: nameRule :: wordRules.drop 9 := rfl

section Label

variable {front part : Text} (isSpace : isNamespace (front ++ ['_']) = true)
  (isPart : isLocalPart part = true) (filled : part ≠ [])

include isSpace isPart filled

/-- The rule for labels takes the end of the name. -/
theorem coat_labelRule :
    labelRule.coat none (front ++ ("_:".toList ++ part))
        (Canvas.empty (front ++ ("_:".toList ++ part)).length) =
      Canvas.empty front.length ++ cellsIn .blankNode ("_:".toList ++ part) := by
  have silent : ∀ k, k < front.length → labelRule.pattern.hit
      (Pattern.charBefore none (front ++ ("_:".toList ++ part)) k)
      ((front ++ ("_:".toList ++ part)).drop k) = none := by
    intro k inFront
    have name : front ++ ("_:".toList ++ part) = (front ++ ['_']) ++ ':' :: part := by simp
    change Pattern.blankNode.hit _ _ = none
    simp only [Pattern.hit]
    rw [if_neg]
    rw [name]
    intro starts
    have size := length_of_startsWith_label isSpace isPart starts
    rw [List.length_append, List.length_singleton] at size
    omega
  rw [List.length_append, Canvas.empty_add,
    Rule.coat_append_of_silent silent (Canvas.length_empty front.length)]
  exact congrArg _ (@Rule.coat_of_hit labelRule (forWords_of_mem (by decide)) _ [] _ _
    (hit_blankNode isPart filled _) rfl rfl [] rfl)

omit filled in
/-- The rule for names paints what is left of the name, as it begins in front of the label. -/
theorem coat_nameRule (begun : front ≠ []) :
    nameRule.coat none (front ++ ("_:".toList ++ part))
        (Canvas.empty front.length ++ cellsIn .blankNode ("_:".toList ++ part)) =
      cellsIn .prefixedName front ++ cellsIn .blankNode ("_:".toList ++ part) := by
  have found : nameRule.pattern.hit none (front ++ ("_:".toList ++ part)) =
      some (.whole (front ++ ("_:".toList ++ part)).length) := by
    have name : front ++ ("_:".toList ++ part) = (front ++ ['_']) ++ ':' :: part := by simp
    rw [name]
    exact congrArg (Option.map Hit.whole) (nameLength_of_isNamespace isSpace isPart)
  have free : (Canvas.empty front.length ++ cellsIn .blankNode ("_:".toList ++ part))[0]?.join =
      none := by
    obtain ⟨c, rest, rfl⟩ := List.exists_cons_of_ne_nil begun
    rfl
  have styled : ∀ cell ∈ cellsIn .blankNode ("_:".toList ++ part), cell ≠ none := by
    intro cell member
    rw [List.eq_of_mem_replicate member]
    exact Option.some_ne_none _
  have size : (front ++ ("_:".toList ++ part)).length =
      front.length + (cellsIn .blankNode ("_:".toList ++ part)).length := by
    rw [List.length_append, cellsIn, List.length_replicate]
  rw [Rule.coat_of_whole (forWords_of_mem (by decide)) found free, size]
  exact Canvas.fill_before_styled front.length styled .prefixedName

/-- The rules for words part the name in front of the label. -/
theorem wordCoats_label (begun : front ≠ []) :
    wordCoats none (front ++ ("_:".toList ++ part))
        (Canvas.empty (front ++ ("_:".toList ++ part)).length) =
      cellsIn .prefixedName front ++ cellsIn .blankNode ("_:".toList ++ part) := by
  have name : front ++ ("_:".toList ++ part) = (front ++ ['_']) ++ ':' :: part := by simp
  have named : ∀ c ∈ front ++ ("_:".toList ++ part), endsName c = false := by
    rw [name]
    exact named_name isSpace isPart
  have settled : Settled (front ++ ("_:".toList ++ part))
      (cellsIn .prefixedName front ++ cellsIn .blankNode ("_:".toList ++ part)) :=
    (settled_cellsIn _ _).append List.length_replicate (settled_cellsIn _ _)
  have later : ∀ rule ∈ wordRules.drop 9, rule.ForWords := fun rule member =>
    forWords_of_mem (List.mem_of_mem_drop member)
  unfold wordCoats
  rw [wordRules_eq_labels, List.foldl_append,
    foldl_coat_eq_self fun rule member =>
      Rule.coat_of_silent (silent_of_named named none rule member) _,
    List.foldl_cons, coat_labelRule isSpace isPart filled, List.foldl_cons,
    coat_nameRule isSpace isPart begun]
  exact foldl_coat_eq_self fun rule member => Rule.coat_of_settled (later rule member) settled

end Label

/-! ## Names -/

section Name

variable {space part : Text} (isSpace : isNamespace space = true)
  (isPart : isLocalPart part = true)

include isSpace isPart

theorem classify_name_eq_wordCoats :
    classify standardRules (space ++ ':' :: part) 0 none =
      .ok ((wordCoats none (space ++ ':' :: part)
        (Canvas.empty (space ++ ':' :: part).length)).spans 0) := by
  rw [classify_whole groupExists_standardRules, coats_of_named (named_name isSpace isPart)]

theorem classify_name_of_endsInLabel (ends : EndsInLabel space part) :
    classify standardRules (space ++ ':' :: part) 0 none =
      .ok [⟨0, space.length - 1, .prefixedName⟩,
        ⟨space.length - 1, (space ++ ':' :: part).length, .blankNode⟩] := by
  rw [classify_name_eq_wordCoats isSpace isPart]
  obtain ⟨front, begun, rfl⟩ := exists_of_endsInLabel isSpace ends
  have name : (front ++ ['_']) ++ ':' :: part = front ++ ("_:".toList ++ part) := by simp
  have differs : (cellsIn .blankNode ("_:".toList ++ part)).head? ≠ some (some .prefixedName) :=
    fun same => nomatch same
  have spans := spans_piece_append begun differs 0
  rw [name, wordCoats_label isSpace isPart ends.2 begun]
  refine congrArg Except.ok (spans.trans ?_)
  have label : (cellsIn .blankNode ("_:".toList ++ part)).spans (0 + front.length) =
      [⟨0 + front.length, 0 + front.length + ("_:".toList ++ part).length, .blankNode⟩] := by
    have rest := @spans_piece_append .blankNode ("_:".toList ++ part) (List.cons_ne_nil _ _) []
      (fun same => nomatch same) (0 + front.length)
    rwa [List.append_nil] at rest
  rw [label]
  simp

theorem classify_name_of_not_endsInLabel (other : ¬ EndsInLabel space part) :
    classify standardRules (space ++ ':' :: part) 0 none =
      .ok [⟨0, (space ++ ':' :: part).length, .prefixedName⟩] := by
  have bare : space.getLast? = some '_' → part = [] := fun underscore =>
    Decidable.byContradiction fun filled => other ⟨underscore, filled⟩
  have filled : space ++ ':' :: part ≠ [] := by simp
  have span := @spans_piece_append .prefixedName _ filled [] (fun same => nomatch same) 0
  rw [List.append_nil, Nat.zero_add] at span
  rw [classify_name_eq_wordCoats isSpace isPart, wordCoats_name isSpace isPart bare, cellsIn, span]
  rfl

/-- A name by itself is highlighted as one, unless its end reads as the label of a node. Then that
end is highlighted as a label, and only what is left of the namespace as a name. -/
theorem classify_name_iff :
    let name := space ++ ':' :: part
    (classify standardRules name 0 none = .ok [⟨0, name.length, .prefixedName⟩] ↔
        ¬ EndsInLabel space part) ∧
      (EndsInLabel space part → classify standardRules name 0 none =
        .ok [⟨0, space.length - 1, .prefixedName⟩,
          ⟨space.length - 1, name.length, .blankNode⟩]) := by
  refine ⟨⟨fun whole ends => ?_, classify_name_of_not_endsInLabel isSpace isPart⟩,
    classify_name_of_endsInLabel isSpace isPart⟩
  have parted := classify_name_of_endsInLabel isSpace isPart ends
  exact absurd (Except.ok.inj (whole.symm.trans parted)) (by simp)

end Name

/-- Underscores elsewhere, and one at the end of a namespace without a local part. -/
theorem classify_name_iff_whole :
    classify standardRules ("a_b.é".toList ++ ':' :: "_c.d".toList) 0 none =
        .ok [⟨0, 10, .prefixedName⟩] ∧
      classify standardRules ("a_.b-_".toList ++ ':' :: []) 0 none =
        .ok [⟨0, 7, .prefixedName⟩] := by
  have inside := (@classify_name_iff "a_b.é".toList "_c.d".toList (by decide) (by decide)).1.mpr
    fun ends => absurd ends.1 (by decide)
  have bare := (@classify_name_iff "a_.b-_".toList [] (by decide) (by decide)).1.mpr
    fun ends => ends.2 rfl
  exact ⟨inside, bare⟩

/-- A name that is not painted whole. -/
theorem classify_name_with_label :
    isNamespace "a_".toList = true ∧ isLocalPart "b".toList = true ∧
      classify standardRules ("a_".toList ++ ':' :: "b".toList) 0 none =
        .ok [⟨0, 1, .prefixedName⟩, ⟨1, 4, .blankNode⟩] := by
  have isSpace : isNamespace "a_".toList = true := by decide
  have isPart : isLocalPart "b".toList = true := by decide
  exact ⟨isSpace, isPart, classify_name_of_endsInLabel isSpace isPart ⟨by decide, by decide⟩⟩

end TurtleEdit
