import TurtleEdit.Proofs.Literals

/-!
Strings and comments among the pieces of a text.

In a text of tokens no three quotes follow one another, because every quote in a string is escaped
and strings stand apart, so there are no long strings. The strings that the rule for strings finds
are those of the literals: quotes stand nowhere else. A comment begins after a blank, and only in a
string does its sign stand there; but strings are painted already.
-/

namespace TurtleEdit

/-! ## Long strings -/

/-- No three quotes follow one another. -/
def NoTriple (text : Text) : Prop := ∀ pos, ¬ TripleAt text pos

theorem noTriple_of_not_mem {text : Text} (plain : '"' ∉ text) : NoTriple text := by
  rintro pos ⟨rest, here⟩
  have first : '"' ∈ text.drop pos := by
    rw [← here]
    exact List.mem_cons_self
  exact plain (List.mem_of_mem_drop first)

theorem getElem?_of_tripleAt {text : Text} {pos : Nat} (triple : TripleAt text pos) {i : Nat}
    (inside : i < 3) : text[pos + i]? = some '"' := by
  obtain ⟨rest, here⟩ := triple
  rw [← List.getElem?_drop, ← here]
  match i, inside with
  | 0, _ => rfl
  | 1, _ => rfl
  | 2, _ => rfl

/-- Two texts without a triple quote make one, unless quotes meet where they are joined. -/
theorem NoTriple.append {text rest : Text} (first : NoTriple text) (second : NoTriple rest)
    (seam : text.getLast? ≠ some '"' ∨ rest.head? ≠ some '"') : NoTriple (text ++ rest) := by
  intro pos triple
  rcases Nat.lt_or_ge pos text.length with near | far
  · by_cases inside : pos + 3 ≤ text.length
    · refine first pos ?_
      rw [TripleAt, List.drop_append_of_le_length (Nat.le_of_lt near)] at triple
      refine List.prefix_of_prefix_length_le triple (List.prefix_append _ _) ?_
      rw [List.length_drop]
      exact Nat.le_sub_of_add_le' inside
    · -- the last character of the one and the first of the other are among the three
      have last := getElem?_of_tripleAt triple (show text.length - 1 - pos < 3 by omega)
      have next := getElem?_of_tripleAt triple (show text.length - pos < 3 by omega)
      rw [Nat.add_sub_cancel' (by omega), List.getElem?_append_left (by omega),
        ← List.getLast?_eq_getElem?] at last
      rw [Nat.add_sub_cancel' (by omega), List.getElem?_append_right (Nat.le_refl _),
        Nat.sub_self, ← List.head?_eq_getElem?] at next
      exact seam.elim (fun differs => differs last) (fun differs => differs next)
  · refine second (pos - text.length) ?_
    rwa [TripleAt, List.drop_append, List.drop_eq_nil_of_le far, List.nil_append] at triple

theorem NoTriple.cons {c : Char} {rest : Text} (later : NoTriple rest)
    (apart : ¬ (c = '"' ∧ ['"', '"'] <+: rest)) : NoTriple (c :: rest) := by
  rintro (_ | pos) triple
  · obtain ⟨quote, two⟩ := List.cons_prefix_cons.mp triple
    exact apart ⟨quote.symm, two⟩
  · exact later pos triple

/-- A string of one line holds no triple quote, as every quote inside it is escaped. -/
theorem noTriple_string {body : Text} (isBody : isStringBody body = true) :
    NoTriple ('"' :: (body ++ ['"'])) := by
  have inside : NoTriple (body ++ ['"']) ∧ ¬ ['"', '"'] <+: body ++ ['"'] := by
    induction body using isStringBody.induct with
    | case1 c rest ih =>
      rw [isStringBody, Bool.and_eq_true] at isBody
      obtain ⟨later, apart⟩ := ih isBody.2
      refine ⟨(later.cons fun two => apart two.2).cons fun quote => ?_, fun two => ?_⟩
      · exact absurd quote.1 (by decide)
      · exact absurd (List.cons_prefix_cons.mp two).1 (by decide)
    | case2 => cases isBody
    | case3 c rest noEscape noLast ih =>
      rw [isStringBody.eq_3 _ _ noEscape noLast] at isBody
      simp only [Bool.and_eq_true, bne_iff_ne] at isBody
      obtain ⟨⟨quote, -⟩, isRest⟩ := isBody
      obtain ⟨later, -⟩ := ih isRest
      exact ⟨later.cons fun two => quote two.1, fun two =>
        quote (List.cons_prefix_cons.mp two).1.symm⟩
    | case4 =>
      refine ⟨NoTriple.cons (noTriple_of_not_mem List.not_mem_nil) ?_, ?_⟩
      · simp
      · simp
  exact inside.1.cons fun two => inside.2 two.2

theorem Rule.coat_of_noTriple {rule : Rule} (strings : rule.pattern = .longString) {text : Text}
    (plain : NoTriple text) (canvas : Canvas) : rule.coat none text canvas = canvas := by
  refine coat_of_silent (fun k => ?_) canvas
  rw [strings]
  exact Option.eq_none_iff_forall_ne_some.mpr fun hit found =>
    plain k (tripleAt_of_hit_longString found)

/-! ## Comments -/

/-- Where a comment would begin, the text is painted. -/
def Uncommented (text : Text) (canvas : Canvas) : Prop :=
  ∀ (before : Option Char) (k : Nat), text[k]? = some '#' →
    afterBlank (Pattern.charBefore before text k) = true → ∃ style, canvas[k]? = some (some style)

theorem Pattern.charBefore_append (before : Option Char) (text rest : Text) (k : Nat) :
    charBefore before (text ++ rest) (text.length + k) =
      charBefore (charBefore before text text.length) rest k := by
  unfold charBefore
  rw [List.take_length_add_append, List.take_length, List.getLast?_append]
  cases (rest.take k).getLast? <;> rfl

theorem Uncommented.append {text rest : Text} {canvas right : Canvas}
    (first : Uncommented text canvas) (size : canvas.length = text.length)
    (second : Uncommented rest right) : Uncommented (text ++ rest) (canvas ++ right) := by
  intro before k here after
  by_cases near : k < text.length
  · have same : Pattern.charBefore before (text ++ rest) k = Pattern.charBefore before text k := by
      rw [Pattern.charBefore, List.take_append_of_le_length (Nat.le_of_lt near),
        Pattern.charBefore]
    rw [List.getElem?_append_left near] at here
    rw [same] at after
    rw [List.getElem?_append_left (by omega)]
    exact first before k here after
  · obtain ⟨j, rfl⟩ : ∃ j, k = text.length + j := ⟨k - text.length, by omega⟩
    rw [List.getElem?_append_right (Nat.le_add_right _ _), Nat.add_sub_cancel_left] at here
    rw [Pattern.charBefore_append] at after
    rw [← size, List.getElem?_append_right (Nat.le_add_right _ _), Nat.add_sub_cancel_left]
    exact second _ j here after

/-- A text without the sign of comments has none. -/
theorem uncommented_of_not_mem {text : Text} (absent : '#' ∉ text) (canvas : Canvas) :
    Uncommented text canvas := fun _ _ here _ => absurd (List.mem_of_getElem? here) absent

theorem uncommented_cellsIn (style : Style) (text : Text) :
    Uncommented text (cellsIn style text) := by
  intro before k here _
  have bound := (List.getElem?_eq_some_iff.mp here).1
  exact ⟨style, by rw [cellsIn, List.getElem?_replicate, if_pos bound]⟩

/-- A text without blanks holds no comment but at its start. -/
theorem uncommented_of_solid {text : Text} (solid : ∀ c ∈ text, isBlank c = false)
    (start : text.head? ≠ some '#') (canvas : Canvas) : Uncommented text canvas := by
  intro before k here after
  by_cases first : k = 0
  · subst first
    rw [← List.head?_eq_getElem?] at here
    exact absurd here start
  · have filled : text ≠ [] := List.ne_nil_of_mem (List.mem_of_getElem? here)
    obtain ⟨c, member, same⟩ := Pattern.exists_charBefore before first filled
    rw [same, afterBlank, solid c member] at after
    cases after

/-- The rule for comments changes nothing where a comment would begin on painted text only. -/
theorem Rule.coat_of_uncommented {rule : Rule} (comments : rule.pattern = .comment)
    (group : rule.group ≠ 0) (keeps : rule.overrides = false) {text : Text} {canvas : Canvas}
    (uncommented : Uncommented text canvas) : rule.coat none text canvas = canvas := by
  refine foldl_paint_eq_self keeps fun m member part aims => ?_
  obtain ⟨k, hit, here, rfl, -⟩ := Pattern.hit_of_mem_matchesFrom member
  rw [comments] at here
  simp only [Pattern.hit] at here
  split at here
  · next conditions =>
    rw [Bool.and_eq_true] at conditions
    cases here
    rw [target, if_neg group] at aims
    cases aims
    have sign : text[k]? = some '#' := by
      rw [← List.head?_drop]
      exact head?_of_startsWith rfl conditions.2
    obtain ⟨style, painted⟩ := uncommented none k sign conditions.1
    exact ⟨style, by simpa using painted⟩
  · cases here

/-! ## Pieces without strings and comments -/

/-- A piece that is no string, holds no quote and lets no comment begin. -/
structure Piece.Plain (piece : Piece) : Prop where
  style : piece.style ≠ some .string
  unquoted : '"' ∉ piece.text
  uncommented : ∀ canvas, Uncommented piece.text canvas

theorem Piece.plain_of_named {style : Option Style} (other : style ≠ some .string) {text : Text}
    (named : ∀ c ∈ text, endsName c = false) : Piece.Plain ⟨style, text⟩ :=
  ⟨other, not_mem_of_endsName (by decide) named,
    uncommented_of_not_mem (not_mem_of_endsName (by decide) named)⟩

theorem Piece.plain_of_isBlank {style : Option Style} (other : style ≠ some .string)
    {blanks : Text} (allBlank : blanks.all isBlank = true) : Piece.Plain ⟨style, blanks⟩ := by
  have blank := List.all_eq_true.mp allBlank
  exact ⟨other, fun member => absurd (blank _ member) (by decide),
    uncommented_of_not_mem fun member => absurd (blank _ member) (by decide)⟩

theorem Piece.plain_iri {style : Option Style} (other : style ≠ some .string) {iri : Text}
    (plain : isPlainIri iri = true) : Piece.Plain ⟨style, '<' :: (iri ++ ['>'])⟩ := by
  have solid := solid_iri plain
  exact ⟨other, fun member => (solid _ member).2.1 rfl,
    uncommented_of_solid (fun c member => (solid c member).1) (by simp)⟩

theorem plain_of_isSuffix {suffix : List Piece} (isSuffix : IsSuffix suffix) :
    ∀ piece ∈ suffix, piece.Plain := by
  have carets : Piece.Plain ⟨none, "^^".toList⟩ :=
    ⟨by simp, by decide, uncommented_of_not_mem (by decide)⟩
  cases isSuffix with
  | nothing => exact fun _ member => nomatch member
  | language isTag other =>
    have named := named_tag isTag
    refine List.forall_mem_singleton.mpr ⟨by simp, ?_, uncommented_of_not_mem ?_⟩
    · simpa using not_mem_of_endsName (by decide) named
    · simpa using not_mem_of_endsName (by decide) named
  | iri plain =>
    exact List.forall_mem_cons.mpr
      ⟨carets, List.forall_mem_singleton.mpr (Piece.plain_iri (by simp) plain)⟩
  | name isSpace isPart =>
    exact List.forall_mem_cons.mpr ⟨carets, List.forall_mem_singleton.mpr
      (Piece.plain_of_named (by simp) (named_name isSpace isPart))⟩

/-- A token is a string with its suffix, or has plain pieces only. -/
theorem literal_or_plain {token : List Piece} (isToken : IsToken token) :
    (∃ body suffix, token = ⟨some .string, '"' :: (body ++ ['"'])⟩ :: suffix ∧
      isStringBody body = true ∧ IsSuffix suffix) ∨ ∀ piece ∈ token, piece.Plain := by
  cases isToken with
  | literal isBody isSuffix => exact Or.inl ⟨_, _, rfl, isBody, isSuffix⟩
  | declaration allBlank apart isSpace =>
    refine Or.inr (List.forall_mem_cons.mpr ⟨?_, List.forall_mem_cons.mpr ⟨?_, ?_⟩⟩)
    · exact ⟨by simp, by decide, uncommented_of_not_mem (by decide)⟩
    · exact Piece.plain_of_isBlank (by simp) allBlank
    · exact List.forall_mem_singleton.mpr
        (Piece.plain_of_named (by simp) (named_name isSpace rfl))
  | base =>
    exact Or.inr (List.forall_mem_singleton.mpr
      ⟨by simp, by decide, uncommented_of_not_mem (by decide)⟩)
  | iri plain => exact Or.inr (List.forall_mem_singleton.mpr (Piece.plain_iri (by simp) plain))
  | blankNode isLabel filled =>
    refine Or.inr (List.forall_mem_singleton.mpr (Piece.plain_of_named (by simp) ?_))
    exact named_label isLabel
  | name isSpace isPart other =>
    exact Or.inr (List.forall_mem_singleton.mpr
      (Piece.plain_of_named (by simp) (named_name isSpace isPart)))
  | mark isMark =>
    refine Or.inr (List.forall_mem_singleton.mpr ⟨by simp, ?_, uncommented_of_not_mem ?_⟩)
    · rintro member
      rw [← List.mem_singleton.mp member] at isMark
      exact absurd isMark (by decide)
    · rintro member
      rw [← List.mem_singleton.mp member] at isMark
      exact absurd isMark (by decide)

/-- A piece is a string in its quotes, or plain. -/
def Piece.IsStringOrPlain (piece : Piece) : Prop :=
  (piece.style = some .string ∧
      ∃ body, isStringBody body = true ∧ piece.text = '"' :: (body ++ ['"'])) ∨ piece.Plain

theorem stringOrPlain_of_isToken {token : List Piece} (isToken : IsToken token) :
    ∀ piece ∈ token, piece.IsStringOrPlain := by
  rcases literal_or_plain isToken with ⟨body, suffix, rfl, isBody, isSuffix⟩ | plain
  · exact List.forall_mem_cons.mpr ⟨Or.inl ⟨rfl, body, isBody, rfl⟩, fun piece member =>
      Or.inr (plain_of_isSuffix isSuffix piece member)⟩
  · exact fun piece member => Or.inr (plain piece member)

theorem stringOrPlain_of_spaced {pieces : List Piece} (spaced : Spaced pieces) :
    ∀ piece ∈ pieces, piece.IsStringOrPlain := by
  induction spaced with
  | nil => exact fun _ member => nomatch member
  | last isToken => exact stringOrPlain_of_isToken isToken
  | next isToken allBlank apart spaced ih =>
    refine List.forall_mem_append.mpr ⟨stringOrPlain_of_isToken isToken, ?_⟩
    exact List.forall_mem_cons.mpr ⟨Or.inr (Piece.plain_of_isBlank (by simp) allBlank), ih⟩

/-- No comment begins outside the strings. -/
theorem uncommented_pieces {pieces : List Piece}
    (quoted : ∀ piece ∈ pieces, piece.IsStringOrPlain) :
    Uncommented (textOf pieces) (cellsOf (pieces.map Piece.asString)) := by
  induction pieces with
  | nil => exact uncommented_of_not_mem List.not_mem_nil _
  | cons piece rest ih =>
    have later := ih fun other member => quoted other (List.mem_cons_of_mem _ member)
    have size : (List.replicate piece.asString.text.length piece.asString.style).length =
        piece.text.length := by rw [List.length_replicate, Piece.text_asString]
    refine Uncommented.append ?_ size later
    rcases quoted piece List.mem_cons_self with ⟨style, -⟩ | plain
    · have asString : piece.asString = piece := if_pos style
      rw [asString]
      dsimp only
      rw [style]
      exact uncommented_cellsIn .string piece.text
    · exact plain.uncommented _

theorem unquoted_of_plain {pieces : List Piece} (plain : ∀ piece ∈ pieces, piece.Plain) :
    '"' ∉ textOf pieces := by
  intro member
  obtain ⟨piece, inPieces, inText⟩ := List.mem_flatMap.mp member
  exact (plain piece inPieces).unquoted inText

theorem noTriple_token {token : List Piece} (isToken : IsToken token) :
    NoTriple (textOf token) := by
  rcases literal_or_plain isToken with ⟨body, suffix, rfl, isBody, isSuffix⟩ | plain
  · have unquoted := unquoted_of_plain (plain_of_isSuffix isSuffix)
    refine (noTriple_string isBody).append (noTriple_of_not_mem unquoted) (Or.inr ?_)
    exact fun first => unquoted (List.mem_of_head? first)
  · exact noTriple_of_not_mem (unquoted_of_plain plain)

/-- Blanks before a text bring no triple quote about. -/
theorem NoTriple.blanks_append {blanks text : Text} (allBlank : blanks.all isBlank = true)
    (plain : NoTriple text) : NoTriple (blanks ++ text) := by
  have unquoted : '"' ∉ blanks := fun member =>
    absurd (List.all_eq_true.mp allBlank _ member) (by decide)
  refine (noTriple_of_not_mem unquoted).append plain (Or.inl ?_)
  exact fun last => unquoted (List.mem_of_getLast? last)

theorem noTriple_spaced {pieces : List Piece} (spaced : Spaced pieces) :
    NoTriple (textOf pieces) := by
  induction spaced with
  | nil => exact noTriple_of_not_mem List.not_mem_nil
  | last isToken => exact noTriple_token isToken
  | @next token rest blanks isToken allBlank apart spaced ih =>
    rw [textOf_append]
    refine (noTriple_token isToken).append (ih.blanks_append allBlank) (Or.inr fun first => ?_)
    obtain ⟨b, others, rfl⟩ := List.exists_cons_of_ne_nil apart
    cases first
    exact absurd (List.all_eq_true.mp allBlank _ List.mem_cons_self) (by decide)

/-! ## Strings -/

theorem stringBody_of_isStringBody {body : Text} (isBody : isStringBody body = true)
    (rest : Text) : stringBody (body ++ '"' :: rest) = some (body.length + 1) := by
  induction body using isStringBody.induct with
  | case1 c tail ih =>
    rw [isStringBody, Bool.and_eq_true, bne_iff_ne] at isBody
    rw [List.cons_append, List.cons_append, stringBody, if_neg isBody.1, ih isBody.2]
    rfl
  | case2 => cases isBody
  | case3 c tail noEscape noLast ih =>
    rw [isStringBody.eq_3 _ _ noEscape noLast] at isBody
    simp only [Bool.and_eq_true, bne_iff_ne] at isBody
    obtain ⟨⟨quote, feed⟩, isTail⟩ := isBody
    have other := ne_backslash noEscape noLast
    rw [List.cons_append, stringBody.eq_5 _ _ (fun same => quote same)
      (fun _ _ same => absurd same other) (fun same => absurd same other), if_neg feed, ih isTail]
    rfl
  | case4 => rfl

namespace Pattern

/-- A string does not depend on what comes before it. -/
theorem matchesFrom_string_before (pos skip : Nat) (before other : Option Char) (text : Text) :
    string.matchesFrom pos skip before text = string.matchesFrom pos skip other text := by
  cases text with
  | nil => rfl
  | cons c rest =>
    cases skip with
    | zero => rfl
    | succ skip => rfl

/-- Characters other than quotes are passed over. -/
theorem matchesFrom_string_append {text : Text} (plain : '"' ∉ text) (pos : Nat)
    (before : Option Char) (rest : Text) :
    string.matchesFrom pos 0 before (text ++ rest) =
      string.matchesFrom (pos + text.length) 0 none rest := by
  induction text generalizing pos before with
  | nil => exact matchesFrom_string_before _ _ _ _ _
  | cons c tail ih =>
    have other := List.ne_of_not_mem_cons plain
    have nothing : string.hit before (c :: (tail ++ rest)) = none := by
      simp [hit, Ne.symm other]
    rw [List.cons_append, matchesFrom, nothing]
    dsimp only
    rw [ih (List.not_mem_of_not_mem_cons plain), List.length_cons, Nat.add_assoc, Nat.add_comm 1]

/-- A string in its quotes is found as a whole. -/
theorem matchesFrom_string_quoted {body : Text} (isBody : isStringBody body = true) (pos : Nat)
    (before : Option Char) (rest : Text) :
    string.matchesFrom pos 0 before ('"' :: (body ++ ['"']) ++ rest) =
      Hit.place (.whole ('"' :: (body ++ ['"'])).length) pos ::
        string.matchesFrom (pos + ('"' :: (body ++ ['"'])).length) 0 none rest := by
  have found : string.hit before ('"' :: (body ++ ['"'] ++ rest)) =
      some (.whole ('"' :: (body ++ ['"'])).length) := by
    simp only [hit]
    rw [List.append_assoc, List.singleton_append, stringBody_of_isStringBody isBody,
      Option.map_some, List.length_cons, List.length_append]
    rfl
  have skipped : string.matchesFrom (pos + 1) (body ++ ['"']).length (some '"')
      (body ++ ['"'] ++ rest) = string.matchesFrom (pos + 1 + (body ++ ['"']).length) 0 none rest :=
    (matchesFrom_length_append _ _ _ _ _).trans (matchesFrom_string_before _ _ _ _ _)
  have size : pos + ('"' :: (body ++ ['"'])).length = pos + 1 + (body ++ ['"']).length := by
    rw [List.length_cons]
    omega
  rw [size, ← skipped, List.cons_append, matchesFrom, found]
  rfl

end Pattern

/-- The rule for strings. -/
def stringRule : Rule := ⟨"string", .string, .string, 0, false⟩

theorem paint_stringRule (size : Nat) :
    stringRule.paint (Canvas.empty size) (Hit.place (.whole size) 0) =
      List.replicate size (some .string) := by
  have aims : stringRule.target (Hit.place (.whole size) 0) = some (0, size) := by
    simp [Rule.target, stringRule, Hit.place, Hit.whole]
  have free : (Canvas.empty size)[0]?.join = none := by
    rw [Canvas.empty, List.getElem?_replicate]
    split <;> rfl
  rw [Rule.paint, aims]
  simp only [free, Option.isNone_none, Bool.or_true, if_true]
  exact Canvas.fill_empty size .string

/-- The rule for strings paints the strings among the pieces of a text. -/
theorem coat_stringRule {pieces : List Piece} (quoted : ∀ piece ∈ pieces, piece.IsStringOrPlain) :
    stringRule.coat none (textOf pieces) (Canvas.empty (textOf pieces).length) =
      cellsOf (pieces.map Piece.asString) := by
  induction pieces with
  | nil => rfl
  | cons piece rest ih =>
    have later := ih fun other member => quoted other (List.mem_cons_of_mem _ member)
    have shift := Pattern.matchesFrom_add .string piece.text.length 0 0 none (textOf rest)
    have text : textOf (piece :: rest) = piece.text ++ textOf rest := rfl
    have cells : cellsOf ((piece :: rest).map Piece.asString) =
        List.replicate piece.asString.text.length piece.asString.style ++
          cellsOf (rest.map Piece.asString) := rfl
    have pattern : stringRule.pattern = .string := rfl
    rw [Nat.add_zero] at shift
    rw [text, cells, ← later, List.length_append, Canvas.empty_add, Rule.coat, Pattern.matchesIn,
      pattern]
    rcases quoted piece List.mem_cons_self with
      ⟨style, body, isBody, quotes⟩ | plain
    · have found := Pattern.matchesFrom_string_quoted isBody 0 none (textOf rest)
      rw [← quotes, Nat.zero_add, shift] at found
      have asString : piece.asString = piece := if_pos style
      have inside : ∀ m ∈ [Hit.place (.whole piece.text.length) 0],
          m.Within (Canvas.empty piece.text.length).length := by
        rw [List.forall_mem_singleton, Canvas.length_empty]
        simpa using (Hit.whole_within (Nat.le_refl piece.text.length)).place 0
      have painted := stringRule.foldl_paint_append
        (Pattern.string.matchesFrom 0 0 none (textOf rest)) (Canvas.empty (textOf rest).length)
        inside
      rw [Canvas.length_empty] at painted
      rw [found, asString, style]
      refine painted.trans (congrArg (· ++ _) ?_)
      exact paint_stringRule _
    · have found := Pattern.matchesFrom_string_append plain.unquoted 0 none (textOf rest)
      rw [Nat.zero_add, shift] at found
      have asString : piece.asString = ⟨none, piece.text⟩ := if_neg plain.style
      have painted := stringRule.foldl_paint_append_right
        (Pattern.string.matchesFrom 0 0 none (textOf rest)) (Canvas.empty piece.text.length)
        (Canvas.empty (textOf rest).length)
      rw [Canvas.length_empty] at painted
      rw [found, asString]
      exact painted

end TurtleEdit
