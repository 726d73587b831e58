import TurtleEdit.Proofs.Joining

/-!
What the rules for words paint on a single token.

The rules after those for strings and comments find words. What such a rule paints never begins on a
blank or on a caret, so once every other character of a text is painted these rules leave it as it
is. On a token, then, all that matters is the first rule that finds it: the rules before it have to
be silent, and it has to find the token as a whole.
-/

namespace TurtleEdit

/-! ## The rules for words -/

/-- The rules after those for strings and comments. -/
def wordRules : List Rule := standardRules.drop 3

/-- The canvas after the rules for words, in a text that follows the character `before`. -/
def wordCoats (before : Option Char) (text : Text) (canvas : Canvas) : Canvas :=
  wordRules.foldl (fun canvas rule => rule.coat before text canvas) canvas

/-- Patterns of words: those that a blank ends, where a directive is marked by its first character
and holds no quote. -/
def Pattern.inWord : Pattern → Bool
  | directive word =>
    word.toList.head? == some '@' && word.toList.all fun c => !isBlank c && c != '"'
  | pattern => pattern.wordBound

theorem Pattern.wordBound_of_inWord {pattern : Pattern} (inWord : pattern.inWord = true) :
    pattern.wordBound = true := by
  cases pattern <;> try exact inWord
  case directive word =>
    simp only [Pattern.inWord, Bool.and_eq_true, beq_iff_eq, List.all_eq_true] at inWord
    have filled : word.toList.isEmpty = false := by
      cases chars : word.toList with
      | nil => simp [chars] at inWord
      | cons c rest => rfl
    simp only [Pattern.wordBound, Bool.and_eq_true, Bool.not_eq_true', List.all_eq_true]
    exact ⟨filled, fun c member => by simpa using (inWord.2 c member).1⟩

/-- A rule for words paints the group of its pattern, if there is one, and leaves alone what is
painted. -/
structure Rule.ForWords (rule : Rule) : Prop where
  inWord : rule.pattern.inWord = true
  group : rule.group = rule.pattern.groups
  keeps : rule.overrides = false

theorem forWords_of_mem {rule : Rule} (member : rule ∈ wordRules) : rule.ForWords := by
  have table : ∀ rule ∈ wordRules, rule.pattern.inWord = true ∧
      rule.group = rule.pattern.groups ∧ rule.overrides = false := by decide
  obtain ⟨inWord, group, keeps⟩ := table rule member
  exact ⟨inWord, group, keeps⟩

/-! ## What a match paints -/

/-- Where the part of a match begins that is painted. -/
def Hit.skip (hit : Hit) : Nat :=
  match hit.group with
  | some part => part.1
  | none => 0

/-- A character that a painted part may begin with. -/
def begins (c : Char) : Bool := !isBlank c && c != '^'

/-- What a match paints of a text: no quote comes before it, it begins with a character that may
begin it, and it reaches to the end of the match. -/
structure Hit.Aims (groups : Nat) (text : Text) (hit : Hit) : Prop where
  clear : '"' ∉ text.take hit.skip
  first : (text.drop hit.skip).head?.any begins = true
  group : hit.group = if groups = 0 then none else some (hit.skip, hit.length)

theorem begins_of_isAlpha {c : Char} (letter : c.isAlpha = true) : begins c = true := by
  have caret : c ≠ '^' := by
    rintro rfl
    exact absurd letter (by decide)
  cases blank : isBlank c with
  | false => simp [begins, blank, caret]
  | true =>
    rw [isAlpha_of_endsName (endsName_of_isBlank blank)] at letter
    cases letter

theorem begins_of_isMark {c : Char} (mark : isMark c = true) : begins c = true := by
  have caret : c ≠ '^' := by
    rintro rfl
    exact absurd mark (by decide)
  cases blank : isBlank c with
  | false => simp [begins, blank, caret]
  | true =>
    rw [isMark_of_isBlank blank] at mark
    cases mark

theorem head?_of_namespaceLength {text : Text} {n : Nat} (found : namespaceLength text = some n) :
    text.head?.any begins = true := by
  cases text with
  | nil => cases found
  | cons c rest =>
    by_cases colon : c = ':'
    · subst colon
      rfl
    · rw [namespaceLength_cons_of_ne colon] at found
      split at found
      · next conditions =>
        rw [Bool.and_eq_true] at conditions
        exact begins_of_isAlpha conditions.1
      · cases found

theorem head?_of_iriLength {text : Text} {n : Nat} (found : iriLength text = some n) :
    text.head? = some '<' := by
  unfold iriLength at found
  split at found
  · rfl
  · cases found

theorem head?_of_startsWith {word : String} {text : Text} {c : Char}
    (first : word.toList.head? = some c) (starts : startsWith word text = true) :
    text.head? = some c := by
  obtain ⟨rest, rfl⟩ := startsWith_iff.mp starts
  rw [List.head?_append, first]
  rfl

theorem Hit.whole_aims {text : Text} {n : Nat} (first : text.head?.any begins = true) :
    (Hit.whole n).Aims 0 text :=
  ⟨List.not_mem_nil, first, rfl⟩

theorem Hit.grouped_aims {text : Text} {n : Nat} (first : text.head?.any begins = true) :
    (Hit.grouped n).Aims 1 text :=
  ⟨List.not_mem_nil, first, rfl⟩

theorem Hit.after_aims {text : Text} {skip n : Nat} (clear : '"' ∉ text.take skip)
    (first : (text.drop skip).head?.any begins = true) : (Hit.after skip n).Aims 1 text :=
  ⟨clear, first, rfl⟩

/-- The word that declares a namespace, and the blanks after it, hold no quote. -/
theorem quote_not_mem_take_declaration {text : Text} (starts : startsWith "@prefix" text = true) :
    '"' ∉ text.take (7 + runLength isBlank (text.drop 7)) := by
  obtain ⟨tail, rfl⟩ := startsWith_iff.mp starts
  have parts : ("@prefix".toList ++ tail).take (7 + runLength isBlank tail) =
      "@prefix".toList ++ tail.take (runLength isBlank tail) :=
    @List.take_length_add_append _ "@prefix".toList tail _
  have word : ("@prefix".toList ++ tail).drop 7 = tail := rfl
  have blanks : tail.take (runLength isBlank tail) = tail.takeWhile isBlank :=
    (List.prefix_iff_eq_take.mp (List.takeWhile_prefix isBlank)).symm
  rw [word, parts, blanks]
  intro member
  rcases List.mem_append.mp member with inWord | inBlanks
  · exact absurd inWord (by decide)
  · exact absurd (List.all_eq_true.mp List.all_takeWhile _ inBlanks) (by decide)

theorem Pattern.hit_aims {pattern : Pattern} (inWord : pattern.inWord = true)
    {before : Option Char} {text : Text} {hit : Hit} (found : pattern.hit before text = some hit) :
    hit.Aims pattern.groups text := by
  cases pattern <;> simp only [Pattern.inWord, wordBound, Bool.false_eq_true] at inWord <;>
    simp only [Pattern.hit] at found
  case directive word =>
    split at found
    case isFalse => cases found
    case isTrue conditions =>
      simp only [Bool.and_eq_true, beq_iff_eq] at inWord conditions
      cases found
      have first := head?_of_startsWith inWord.1 conditions.1.2
      exact Hit.grouped_aims (by rw [first]; decide)
  case declaredNamespace =>
    split at found
    case isFalse => cases found
    case isTrue starts =>
      split at found
      case isTrue => cases found
      case isFalse =>
        obtain ⟨n, body, rfl⟩ := Option.map_eq_some_iff.mp found
        exact Hit.after_aims (quote_not_mem_take_declaration starts) (head?_of_namespaceLength body)
  case datatypeIri =>
    split at found
    case isFalse => cases found
    case isTrue starts =>
      obtain ⟨n, body, rfl⟩ := Option.map_eq_some_iff.mp found
      obtain ⟨tail, rfl⟩ := startsWith_iff.mp starts
      refine Hit.after_aims (by simp) ?_
      rw [head?_of_iriLength body]
      decide
  case datatypeName =>
    split at found
    case isFalse => cases found
    case isTrue starts =>
      obtain ⟨n, body, rfl⟩ := Option.map_eq_some_iff.mp found
      obtain ⟨tail, rfl⟩ := startsWith_iff.mp starts
      obtain ⟨k, space, rfl⟩ := Option.map_eq_some_iff.mp body
      exact Hit.after_aims (by simp) (head?_of_namespaceLength space)
  case language =>
    split at found
    case h_2 => cases found
    case h_1 rest =>
      split at found
      case isFalse => cases found
      case isTrue => cases found; exact Hit.grouped_aims rfl
  case iri =>
    obtain ⟨n, body, rfl⟩ := Option.map_eq_some_iff.mp found
    exact Hit.whole_aims (by rw [head?_of_iriLength body]; decide)
  case blankNode =>
    split at found
    case isFalse => cases found
    case isTrue starts =>
      split at found
      case isTrue => cases found
      case isFalse =>
        cases found
        exact Hit.whole_aims (by rw [head?_of_startsWith rfl starts]; decide)
  case prefixedName =>
    split at found
    case isTrue => cases found
    case isFalse =>
      obtain ⟨n, body, rfl⟩ := Option.map_eq_some_iff.mp found
      obtain ⟨k, space, rfl⟩ := Option.map_eq_some_iff.mp body
      exact Hit.whole_aims (head?_of_namespaceLength space)
  case punctuation =>
    split at found
    case h_2 => cases found
    case h_1 c rest =>
      split at found
      case isFalse => cases found
      case isTrue conditions =>
        simp only [Bool.and_eq_true] at conditions
        cases found
        exact Hit.grouped_aims (begins_of_isMark conditions.1.2)

namespace Rule

/-- What a rule for words paints of a match. -/
theorem target_place {rule : Rule} (forWords : rule.ForWords) {before : Option Char} {text : Text}
    {hit : Hit} (found : rule.pattern.hit before text = some hit) (pos : Nat) :
    rule.target (hit.place pos) = some (pos + hit.skip, pos + hit.length) := by
  have group := (Pattern.hit_aims forWords.inWord found).group
  unfold target
  split at group
  · next none =>
    rw [if_pos (by rw [forWords.group, none]; rfl), Hit.skip, group]
    rfl
  · next some =>
    rw [if_neg (by rw [forWords.group]; exact Int.natCast_ne_zero.mpr some), Hit.place, group]
    rfl

/-- Matches of which only painted characters would be painted first change nothing. -/
theorem foldl_paint_eq_self {rule : Rule} (keeps : rule.overrides = false) {found : List Match}
    {canvas : Canvas} (painted : ∀ m ∈ found, ∀ part, rule.target m = some part →
      ∃ style, canvas[part.1]? = some (some style)) :
    found.foldl rule.paint canvas = canvas := by
  induction found with
  | nil => rfl
  | cons first rest ih =>
    have same : rule.paint canvas first = canvas := by
      unfold paint
      cases aims : rule.target first with
      | none => rfl
      | some part =>
        obtain ⟨style, here⟩ := painted first List.mem_cons_self part aims
        simp [here, keeps]
    rw [List.foldl_cons, same]
    exact ih fun m later => painted m (List.mem_cons_of_mem _ later)

end Rule

/-! ## Settled texts and silent rules -/

/-- Every character that a painted part may begin with is painted. -/
def Settled (text : Text) (canvas : Canvas) : Prop :=
  ∀ (i : Nat) (c : Char), text[i]? = some c → begins c = true →
    ∃ style, canvas[i]? = some (some style)

/-- The canvas of a text in one style. -/
def cellsIn (style : Style) (text : Text) : Canvas := List.replicate text.length (some style)

theorem Settled.append {text rest : Text} {canvas right : Canvas} (settled : Settled text canvas)
    (size : canvas.length = text.length) (later : Settled rest right) :
    Settled (text ++ rest) (canvas ++ right) := by
  intro i c here may
  by_cases near : i < text.length
  · rw [List.getElem?_append_left near] at here
    rw [List.getElem?_append_left (by omega)]
    exact settled i c here may
  · rw [List.getElem?_append_right (by omega)] at here
    rw [List.getElem?_append_right (by omega), size]
    exact later (i - text.length) c here may

theorem settled_cellsIn (style : Style) (text : Text) : Settled text (cellsIn style text) := by
  intro i c here _
  have bound := (List.getElem?_eq_some_iff.mp here).1
  exact ⟨style, by rw [cellsIn, List.getElem?_replicate, if_pos bound]⟩

/-- Characters that no painted part begins with need not be painted. -/
theorem settled_empty {filler : Text} (filling : ∀ c ∈ filler, begins c = false) :
    Settled filler (Canvas.empty filler.length) := by
  intro i c here may
  rw [filling c (List.mem_of_getElem? here)] at may
  cases may

/-- The pattern matches nowhere in a text that follows the character `before`. -/
def Pattern.Silent (pattern : Pattern) (before : Option Char) (text : Text) : Prop :=
  ∀ k, pattern.hit (charBefore before text k) (text.drop k) = none

theorem Pattern.Silent.matchesIn_eq_nil {pattern : Pattern} {before : Option Char} {text : Text}
    (silent : pattern.Silent before text) : pattern.matchesIn before text = [] := by
  refine List.eq_nil_iff_forall_not_mem.mpr fun m member => ?_
  obtain ⟨k, hit, here, -, -⟩ := hit_of_mem_matchesFrom member
  rw [silent k] at here
  cases here

theorem Rule.coat_of_silent {rule : Rule} {before : Option Char} {text : Text}
    (silent : rule.pattern.Silent before text) (canvas : Canvas) :
    rule.coat before text canvas = canvas := by
  rw [Rule.coat, silent.matchesIn_eq_nil]
  rfl

theorem Rule.coat_of_settled {rule : Rule} (forWords : rule.ForWords) {before : Option Char}
    {text : Text} {canvas : Canvas} (settled : Settled text canvas) :
    rule.coat before text canvas = canvas := by
  refine foldl_paint_eq_self forWords.keeps fun m member part aims => ?_
  obtain ⟨k, hit, here, rfl, -⟩ := Pattern.hit_of_mem_matchesFrom member
  rw [Nat.zero_add, target_place forWords here] at aims
  cases aims
  have first := (Pattern.hit_aims forWords.inWord here).first
  rw [List.drop_drop, List.head?_drop, Option.any_eq_true] at first
  obtain ⟨c, cell, may⟩ := first
  exact settled (k + hit.skip) c cell may

theorem foldl_coat_eq_self {rules : List Rule} {before : Option Char} {text : Text}
    {canvas : Canvas} (same : ∀ rule ∈ rules, rule.coat before text canvas = canvas) :
    rules.foldl (fun canvas rule => rule.coat before text canvas) canvas = canvas := by
  induction rules with
  | nil => rfl
  | cons rule rest ih =>
    rw [List.foldl_cons, same rule List.mem_cons_self]
    exact ih fun other later => same other (List.mem_cons_of_mem _ later)

/-- A match that takes the whole text is the only one. -/
theorem Pattern.matchesIn_of_hit {pattern : Pattern} (bound : pattern.lineBound = true)
    {before : Option Char} {text : Text} {hit : Hit} (found : pattern.hit before text = some hit)
    (whole : hit.length = text.length) : pattern.matchesIn before text = [hit.place 0] := by
  cases text with
  | nil =>
    rw [hit_nil bound] at found
    cases found
  | cons c rest =>
    have skip : hit.length - 1 = rest.length := by
      rw [whole, List.length_cons]
      rfl
    have nothing := matchesFrom_length_append pattern 1 (some c) rest []
    rw [List.append_nil, matchesFrom, hit_nil bound] at nothing
    rw [matchesIn, matchesFrom, found]
    dsimp only
    rw [skip, Nat.zero_add, nothing]

theorem Canvas.fill_empty (size : Nat) (style : Style) :
    (Canvas.empty size).fill 0 size style false = List.replicate size (some style) := by
  apply List.ext_getElem?
  intro i
  rw [Canvas.getElem?_fill, Canvas.empty, List.getElem?_replicate, List.getElem?_replicate]
  split
  · next inside => simp [inside]
  · rfl

/-- A rule that finds a whole text paints what comes after the part that it skips. -/
theorem Rule.coat_of_hit {rule : Rule} (forWords : rule.ForWords) {before : Option Char}
    {front word : Text} {hit : Hit} (found : rule.pattern.hit before (front ++ word) = some hit)
    (skips : hit.skip = front.length) (whole : hit.length = (front ++ word).length)
    {left : Canvas} (size : left.length = front.length) :
    rule.coat before (front ++ word) (left ++ Canvas.empty word.length) =
      left ++ cellsIn rule.style word := by
  have bound := Pattern.lineBound_of_wordBound (Pattern.wordBound_of_inWord forWords.inWord)
  have free : (left ++ Canvas.empty word.length)[hit.skip]?.join = none := by
    rw [skips, ← size, List.getElem?_append_right (Nat.le_refl _), Nat.sub_self, Canvas.empty,
      List.getElem?_replicate]
    split <;> rfl
  have filled := Canvas.fill_append_right left (Canvas.empty word.length) 0 word.length rule.style
    false
  rw [Canvas.fill_empty, Nat.add_zero] at filled
  rw [coat, Pattern.matchesIn_of_hit bound found whole, List.foldl_cons, List.foldl_nil, paint,
    target_place forWords found]
  simp only [Nat.zero_add, free, forWords.keeps, Option.isNone_none, Bool.or_true, if_true]
  rw [skips, whole, List.length_append, ← size]
  exact filled

/-- A token that a rule finds as a whole, and the rules before it do not find, is painted in the
style of that rule, but for characters at its start that nothing painted begins with. -/
theorem wordCoats_of_hit {quiet later : List Rule} {painter : Rule}
    (table : wordRules = quiet ++ painter :: later) {before : Option Char} {filler word : Text}
    (silent : ∀ rule ∈ quiet, rule.pattern.Silent before (filler ++ word)) {hit : Hit}
    (found : painter.pattern.hit before (filler ++ word) = some hit)
    (skips : hit.skip = filler.length) (whole : hit.length = (filler ++ word).length)
    (filling : ∀ c ∈ filler, begins c = false) :
    wordCoats before (filler ++ word) (Canvas.empty (filler ++ word).length) =
      Canvas.empty filler.length ++ cellsIn painter.style word := by
  have forWords : ∀ rule ∈ painter :: later, rule.ForWords := by
    intro rule member
    refine forWords_of_mem ?_
    rw [table]
    exact List.mem_append_right _ member
  have painted := Rule.coat_of_hit (forWords painter List.mem_cons_self) found skips whole
    (Canvas.length_empty filler.length)
  have settled := (settled_empty filling).append (Canvas.length_empty _)
    (settled_cellsIn painter.style word)
  unfold wordCoats
  rw [table, List.foldl_append, List.length_append, Canvas.empty_add,
    foldl_coat_eq_self fun rule member => Rule.coat_of_silent (silent rule member) _,
    List.foldl_cons, painted]
  exact foldl_coat_eq_self fun rule member =>
    Rule.coat_of_settled (forWords rule (List.mem_cons_of_mem _ member)) settled

/-! ## Silence -/

namespace Pattern

/-- The character that every match of a pattern begins with, where there is one. -/
def opener : Pattern → Option Char
  | directive word => word.toList.head?
  | declaredNamespace | language => some '@'
  | datatypeIri | datatypeName => some '^'
  | iri => some '<'
  | blankNode => some '_'
  | _ => none

theorem head?_of_hit {pattern : Pattern} {c : Char} (opens : pattern.opener = some c)
    {before : Option Char} {text : Text} {hit : Hit} (found : pattern.hit before text = some hit) :
    text.head? = some c := by
  cases pattern <;> simp only [opener, reduceCtorEq] at opens <;> simp only [Pattern.hit] at found
  case directive word =>
    split at found
    case isFalse => cases found
    case isTrue conditions =>
      simp only [Bool.and_eq_true] at conditions
      exact head?_of_startsWith opens conditions.1.2
  case iri =>
    obtain ⟨n, body, rfl⟩ := Option.map_eq_some_iff.mp found
    exact (head?_of_iriLength body).trans opens
  case language =>
    split at found
    case h_2 => cases found
    case h_1 rest => exact opens
  all_goals
    split at found
    case isFalse => cases found
    case isTrue starts => exact (head?_of_startsWith rfl starts).trans opens

/-- A pattern is silent on a text without the character that its matches begin with. -/
theorem silent_of_opener {pattern : Pattern} {c : Char} (opens : pattern.opener = some c)
    {text : Text} (absent : c ∉ text) (before : Option Char) : pattern.Silent before text := by
  intro k
  refine Option.eq_none_iff_forall_ne_some.mpr fun hit found => absent ?_
  exact List.mem_of_mem_drop (List.mem_of_head? (head?_of_hit opens found))

/-- Inside a text the character before an offset is one of the text. -/
theorem exists_charBefore (before : Option Char) {text : Text} {k : Nat} (inside : k ≠ 0)
    (filled : text ≠ []) : ∃ c ∈ text, charBefore before text k = some c := by
  have some : (text.take k).getLast? ≠ none := by
    rw [Ne, List.getLast?_eq_none_iff, List.take_eq_nil_iff]
    exact not_or.mpr ⟨inside, filled⟩
  obtain ⟨c, last⟩ := Option.ne_none_iff_exists'.mp some
  refine ⟨c, List.mem_of_mem_take (List.mem_of_getLast? last), ?_⟩
  rw [charBefore, last, Option.some_or]

/-- A pattern is silent if it is at the start of a text and after each of its characters. -/
theorem silent_of_before {pattern : Pattern} {before : Option Char} {text : Text}
    (bound : pattern.lineBound = true) (start : pattern.hit before text = none)
    (inside : ∀ c ∈ text, ∀ rest, pattern.hit (some c) rest = none) :
    pattern.Silent before text := by
  intro k
  by_cases first : k = 0
  · subst first
    exact start
  · by_cases filled : text = []
    · rw [filled, List.drop_nil, hit_nil bound]
    · obtain ⟨c, member, here⟩ := exists_charBefore before first filled
      rw [here, inside c member]

/-- A directive has to follow a blank. -/
theorem silent_directive {word : String} (inWord : (directive word).inWord = true) {text : Text}
    (solid : ∀ c ∈ text, isBlank c = false) {before : Option Char}
    (start : (directive word).hit before text = none) : (directive word).Silent before text := by
  refine silent_of_before (lineBound_of_wordBound (wordBound_of_inWord inWord)) start ?_
  intro c member rest
  simp [hit, afterBlank, solid c member]

/-- A namespace is declared after blanks. -/
theorem silent_declaredNamespace {text : Text} (solid : ∀ c ∈ text, isBlank c = false)
    (before : Option Char) : declaredNamespace.Silent before text := by
  intro k
  have none : runLength isBlank ((text.drop k).drop 7) = 0 := by
    cases rest : (text.drop k).drop 7 with
    | nil => rfl
    | cons c after =>
      have inRest : c ∈ (text.drop k).drop 7 := by
        rw [rest]
        exact List.mem_cons_self
      have other := solid c (List.mem_of_mem_drop (List.mem_of_mem_drop inRest))
      rw [runLength, List.takeWhile_cons_of_neg (by simp [other])]
      rfl
  simp only [hit]
  rw [none]
  simp

/-- A language follows a quote. -/
theorem silent_language {text : Text} (plain : '"' ∉ text) {before : Option Char}
    (start : before ≠ some '"') : language.Silent before text := by
  have other : ∀ before rest, before ≠ some '"' → language.hit before rest = none := by
    intro before rest noQuote
    simp only [hit]
    split
    · rw [if_neg fun conditions => noQuote conditions.1]
    · rfl
  refine silent_of_before rfl (other before text start) fun c member rest => ?_
  refine other (some c) rest fun same => plain ?_
  rwa [← Option.some.inj same]

theorem silent_datatypeIri {text : Text} (absent : '<' ∉ text) (before : Option Char) :
    datatypeIri.Silent before text := by
  intro k
  simp only [hit]
  split
  · rw [Option.map_eq_none_iff]
    refine Option.eq_none_iff_forall_ne_some.mpr fun n found => absent ?_
    exact List.mem_of_mem_drop (List.mem_of_mem_drop (List.mem_of_head? (head?_of_iriLength found)))
  · rfl

end Pattern

end TurtleEdit
