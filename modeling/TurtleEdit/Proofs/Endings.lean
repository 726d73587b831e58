import TurtleEdit.Proofs.Headers

/-!
The shape of a line, and the node that it closes, are told by the end of the trimmed line.

A shape has a pattern: that of a header, or a mark with nothing but blanks behind it. The last
character of a line that is not blank decides between the marks, and a header ends with none of
them, so that no two patterns fit one line and the order in which they are tried does not matter.

A line closes a node by one of two patterns, which ask for a bracket and one or two marks at the
end of the line. On a line without line feeds they say that the line without its blanks ends
with one of four endings.
-/

open scoped Computability

namespace TurtleEdit

/-! ## Patterns of shapes -/

namespace LineShape

/-- The mark that gives a line its shape. -/
def endMark : LineShape → Option Char
  | statementEnd => some '.'
  | continuation => some ';'
  | listItem => some ','
  | blockOpen => some '['
  | blockClose => some ']'
  | header | other => none

/-- The pattern of a shape fits a line: the pattern of headers, or a mark at the end of the line. -/
def Fits (shape : LineShape) (line : Text) : Prop :=
  shape = header ∧ MatchesLine headerPattern line ∨
    ∃ c, shape.endMark = some c ∧ FoundInLine (mark c * gap) line

/-- The shapes that have a pattern, in the order in which the patterns are tried. -/
def tabled : List LineShape :=
  [header, statementEnd, continuation, listItem, blockOpen, blockClose]

theorem isBlank_of_endMark {shape : LineShape} {c : Char} (marked : shape.endMark = some c) :
    isBlank c = false := by
  cases shape <;> cases marked <;> decide

theorem ofLast_of_endMark {shape : LineShape} {c : Char} (marked : shape.endMark = some c) :
    ofLast c = shape := by
  cases shape <;> cases marked <;> rfl

/-- The last character of a line is the mark of the shape that it gives. -/
theorem endMark_ofLast {last : Char} (shaped : ofLast last ≠ other) :
    (ofLast last).endMark = some last := by
  unfold ofLast at *
  split at shaped
  all_goals first | rfl | exact absurd rfl shaped

end LineShape

/-- A mark is found at the end of a line if it is the last character that is not blank. -/
theorem foundInLine_mark_iff {c : Char} (solid : isBlank c = false) (line : Text) :
    FoundInLine (mark c * gap) line ↔ ∃ before, dropBlanks line.reverse = c :: before := by
  rw [foundInLine_mul_gap, mem_mul_mark_gap solid]
  constructor
  · rintro ⟨before, kept, -⟩
    exact ⟨before, kept⟩
  · rintro ⟨before, kept⟩
    exact ⟨before, kept, trivial⟩

/-- A header ends with a character that gives a line no shape. -/
theorem exists_last_of_isHeader {line : Text} (header : isHeader line = true) :
    ∃ last before, dropBlanks line.reverse = last :: before ∧
      LineShape.ofLast last = .other := by
  obtain ⟨left, right, -, rightBlank, split⟩ := exists_trimBlanks line
  rw [isHeader] at header
  have solid := isBlank_of_mem_resource header
  obtain ⟨front, last, inner, unshaped⟩ : ∃ front last, trimBlanks line = front ++ [last] ∧
      LineShape.ofLast last = .other := by
    rw [Bool.or_eq_true, isIriRef_iff, isHeaderName_iff] at header
    rcases header with ⟨iri, isIri, -⟩ | ⟨space, part, isName, -, isPart⟩
    · exact ⟨'<' :: iri, '>', isIri, rfl⟩
    · have ends := List.getLast?_eq_some_getLast (List.append_ne_nil_of_right_ne_nil space
        (List.cons_ne_nil ':' part))
      obtain ⟨front, whole⟩ := List.getLast?_eq_some_iff.mp ends
      exact ⟨front, _, isName.trans whole, ofLast_of_name isPart ends⟩
  rw [inner] at solid split
  have isSolid := solid last (by simp)
  refine ⟨last, (left ++ front).reverse, ?_, unshaped⟩
  rw [split, ← List.append_assoc, List.append_assoc _ [last], List.singleton_append,
    dropBlanks_reverse_append rightBlank isSolid]

/-- A mark that gives a line a shape gives this one its shape. -/
theorem lineShape_of_last {line before : Text} {last : Char}
    (kept : dropBlanks line.reverse = last :: before) (shaped : LineShape.ofLast last ≠ .other) :
    lineShape line = LineShape.ofLast last := by
  have noHeader : ¬ isHeader line = true := by
    intro header
    obtain ⟨other, front, same, unshaped⟩ := exists_last_of_isHeader header
    rw [kept] at same
    obtain ⟨rfl, -⟩ := List.cons.inj same
    exact shaped unshaped
  rw [lineShape, if_neg noHeader, kept]

/-- The pattern of a shape fits the lines of that shape. -/
theorem LineShape.fits_iff (shape : LineShape) (line : Text) :
    shape.Fits line ↔ shape ≠ .other ∧ lineShape line = shape := by
  constructor
  · rintro (⟨rfl, matched⟩ | ⟨c, marked, found⟩)
    · have isHead := (isHeader_iff_matchesLine line).mpr matched
      exact ⟨nofun, by rw [lineShape, if_pos isHead]⟩
    · obtain ⟨before, kept⟩ := (foundInLine_mark_iff (isBlank_of_endMark marked) line).mp found
      have shaped : shape ≠ .other := by
        rintro rfl
        cases marked
      obtain rfl := ofLast_of_endMark marked
      exact ⟨shaped, lineShape_of_last kept shaped⟩
  · rintro ⟨shaped, rfl⟩
    unfold lineShape at shaped ⊢
    split at shaped
    · next isHead =>
      rw [if_pos isHead]
      exact Or.inl ⟨rfl, (isHeader_iff_matchesLine line).mp isHead⟩
    · next noHead =>
      rw [if_neg noHead]
      split at shaped
      · next last before kept =>
        have marked := endMark_ofLast shaped
        exact Or.inr ⟨last, marked,
          (foundInLine_mark_iff (isBlank_of_endMark marked) line).mpr ⟨before, kept⟩⟩
      · exact absurd rfl shaped

instance (shape : LineShape) (line : Text) : Decidable (shape.Fits line) :=
  decidable_of_iff _ (shape.fits_iff line).symm

/-- The first shape of a table whose pattern fits a line, if there is one. -/
def firstShape (table : List LineShape) (line : Text) : LineShape :=
  (table.find? fun shape => shape.Fits line).getD .other

/-- A table that has every pattern gives a line its shape, in whatever order they stand. -/
theorem firstShape_eq_lineShape {table : List LineShape}
    (whole : ∀ shape, shape ≠ .other → shape ∈ table) (line : Text) :
    firstShape table line = lineShape line := by
  unfold firstShape
  cases found : table.find? fun shape => shape.Fits line with
  | some shape =>
    have fits := List.find?_some found
    exact ((shape.fits_iff line).mp (of_decide_eq_true fits)).2.symm
  | none =>
    by_contra shaped
    have fits := ((lineShape line).fits_iff line).mpr ⟨Ne.symm shaped, rfl⟩
    exact List.find?_eq_none.mp found _ (whole _ (Ne.symm shaped)) (decide_eq_true fits)

theorem LineShape.mem_of_perm_tabled {table : List LineShape} (ordered : table.Perm tabled)
    {shape : LineShape} (shaped : shape ≠ .other) : shape ∈ table := by
  rw [ordered.mem_iff]
  cases shape <;> first | exact absurd rfl shaped | decide

/-! ## Blanks around a line -/

/-- The shape of a line is that of the trimmed line. -/
theorem lineShape_trimBlanks (line : Text) : lineShape (trimBlanks line) = lineShape line := by
  obtain ⟨left, right, leftBlank, rightBlank, split⟩ := exists_trimBlanks line
  conv_rhs => rw [split, rightBlank.lineShape_append_right, leftBlank.lineShape_append]

theorem solidPart_trimBlanks (line : Text) : solidPart (trimBlanks line) = solidPart line := by
  obtain ⟨left, right, leftBlank, rightBlank, split⟩ := exists_trimBlanks line
  conv_rhs => rw [split, solidPart_append, solidPart_append, solidPart_of_blanks leftBlank,
    solidPart_of_blanks rightBlank, List.nil_append, List.append_nil]

theorem mem_of_mem_trimBlanks {line : Text} {c : Char} (member : c ∈ trimBlanks line) :
    c ∈ line := by
  obtain ⟨left, right, -, -, split⟩ := exists_trimBlanks line
  rw [split]
  simp [member]

/-! ## Closing a node -/

/-- Anything within a line. -/
def inLine : Language Char := (oneOf (· != '\n'))∗

/-- A bracket with a comma or a semicolon behind it, or neither. -/
def closesPattern : Language Char :=
  inLine * mark ']' * gap * (1 + (mark ',' + mark ';')) * gap

/-- A bracket, a comma and an opening bracket. -/
def reopensPattern : Language Char := inLine * mark ']' * gap * mark ',' * gap * mark '[' * gap

/-- What a line ends with that closes a node, without its blanks. -/
def nodeEndings : List Text := [[']'], [']', ','], [']', ';'], [']', ',', '[']]

theorem mem_inLine {word : Text} : word ∈ inLine ↔ '\n' ∉ word := by
  rw [inLine, mem_kstar_oneOf]
  constructor
  · intro other member
    exact absurd (other _ member) (by decide)
  · intro flat c member
    rw [bne_iff_ne]
    rintro rfl
    exact flat member

theorem gap_mul_gap : gap * gap = gap := kstar_mul_kstar _

/-- The two patterns in terms of the four endings. -/
theorem closesPattern_add_reopensPattern : closesPattern + reopensPattern =
    inLine * spaced [']'] + inLine * spaced [']', ','] + inLine * spaced [']', ';'] +
      inLine * spaced [']', ',', '['] := by
  simp only [closesPattern, reopensPattern, spaced, List.map_cons, List.map_nil, List.prod_cons,
    List.prod_nil, mul_one, mul_add, add_mul, mul_assoc, gap_mul_gap, add_assoc]

/-- The patterns match what one of the endings, with blanks behind its marks, is the end of. -/
theorem matchesLine_closes_or_reopens_iff (line : Text) :
    MatchesLine closesPattern line ∨ MatchesLine reopensPattern line ↔
      ∃ ending ∈ nodeEndings, line ∈ inLine * spaced ending := by
  rw [closesPattern, matchesLine_mul_gap, ← closesPattern, reopensPattern, matchesLine_mul_gap,
    ← reopensPattern, ← Language.mem_add, closesPattern_add_reopensPattern, Language.mem_add,
    Language.mem_add, Language.mem_add]
  simp [nodeEndings, or_assoc]

theorem endsInBracket_iff (text : Text) :
    endsInBracket text = true ↔ ∃ before, text = ']' :: before ∧ '\n' ∉ before := by
  constructor
  · intro ends
    unfold endsInBracket at ends
    split at ends
    · next before => exact ⟨before, rfl, by simpa using ends⟩
    · cases ends
  · rintro ⟨before, rfl, flat⟩
    simpa [endsInBracket] using flat

/-- A bracket with blanks behind it, on the first line, read from the end. -/
theorem endsInBracket_dropBlanks_iff (text : Text) :
    endsInBracket (dropBlanks text) = true ↔ text.reverse ∈ inLine * spaced [']'] := by
  have bracket := @mem_mul_spaced_append_singleton inLine [] ']' (by decide) text.reverse
  rw [List.nil_append, List.reverse_reverse] at bracket
  rw [bracket, endsInBracket_iff]
  refine exists_congr fun before => and_congr_right fun _ => ?_
  rw [spaced, List.map_nil, List.prod_nil, mul_one, mem_inLine, List.mem_reverse]

/-- A bracket and a mark with blanks behind them, read from the end. -/
theorem mem_bracket_mark_iff {c : Char} (solid : isBlank c = false) (line : Text) :
    line ∈ inLine * spaced [']', c] ↔ ∃ before, dropBlanks line.reverse = c :: before ∧
      endsInBracket (dropBlanks before) = true := by
  simp only [endsInBracket_dropBlanks_iff]
  exact @mem_mul_spaced_append_singleton inLine [']'] c solid line

/-- The four ways to close a node, read from the end of the line. -/
theorem closesNode_iff_dropBlanks (line : Text) :
    closesNode line = true ↔
      endsInBracket (dropBlanks line.reverse) = true ∨
      (∃ before, dropBlanks line.reverse = ',' :: before ∧
        endsInBracket (dropBlanks before) = true) ∨
      (∃ before, dropBlanks line.reverse = ';' :: before ∧
        endsInBracket (dropBlanks before) = true) ∨
      ∃ before, dropBlanks line.reverse = '[' :: before ∧
        ∃ earlier, dropBlanks before = ',' :: earlier ∧
          endsInBracket (dropBlanks earlier) = true := by
  unfold closesNode
  cases dropBlanks line.reverse with
  | nil => simp [endsInBracket_iff]
  | cons c before =>
    by_cases comma : c = ','
    · subst comma
      simp [endsInBracket_iff]
    by_cases semicolon : c = ';'
    · subst semicolon
      simp [endsInBracket_iff]
    by_cases opening : c = '['
    · subst opening
      cases kept : dropBlanks before with
      | nil => simp [endsInBracket_iff, kept]
      | cons d earlier =>
        by_cases comma : d = ','
        · subst comma
          simp [endsInBracket_iff, kept]
        · simp [endsInBracket_iff, kept, comma]
    · simp [comma, semicolon, opening]

/-- A line closes a node if one of the endings, with blanks behind its marks, is its end. -/
theorem closesNode_iff (line : Text) :
    closesNode line = true ↔ ∃ ending ∈ nodeEndings, line ∈ inLine * spaced ending := by
  have bracket := endsInBracket_dropBlanks_iff line.reverse
  rw [List.reverse_reverse] at bracket
  have comma := mem_bracket_mark_iff (show isBlank ',' = false by decide)
  have semicolon := mem_bracket_mark_iff (show isBlank ';' = false by decide)
  have reopened : line ∈ inLine * spaced [']', ',', '['] ↔
      ∃ before, dropBlanks line.reverse = '[' :: before ∧
        ∃ earlier, dropBlanks before = ',' :: earlier ∧
          endsInBracket (dropBlanks earlier) = true := by
    have peeled := @mem_mul_spaced_append_singleton inLine [']', ','] '[' (by decide) line
    simp only [comma, List.reverse_reverse] at peeled
    exact peeled
  simp only [nodeEndings, List.mem_cons, List.not_mem_nil, or_false, exists_eq_or_imp,
    exists_eq_left, ← bracket, comma, semicolon, reopened]
  exact closesNode_iff_dropBlanks line

/-- On a line without line feeds, the endings are those of the line without its blanks. -/
theorem closesNode_iff_suffix {line : Text} (flat : '\n' ∉ line) :
    closesNode line = true ↔ ∃ ending ∈ nodeEndings, ending <:+ solidPart line := by
  have within : ∀ before, before <+: line → before ∈ inLine := fun before isStart =>
    mem_inLine.mpr fun member => flat (isStart.mem member)
  rw [closesNode_iff]
  refine exists_congr fun ending => and_congr_right fun isEnding => ?_
  refine mem_mul_spaced_iff (fun c member => ?_) within
  have solid : nodeEndings.all (fun ending => ending.all fun c => !isBlank c) = true := by decide
  have isSolid := List.all_eq_true.mp (List.all_eq_true.mp solid ending isEnding) c member
  rwa [Bool.not_eq_true'] at isSolid

theorem closesNode_trimBlanks {line : Text} (flat : '\n' ∉ line) :
    closesNode (trimBlanks line) = closesNode line := by
  have flatTrimmed : '\n' ∉ trimBlanks line := fun member => flat (mem_of_mem_trimBlanks member)
  rw [Bool.eq_iff_iff, closesNode_iff_suffix flat, closesNode_iff_suffix flatTrimmed,
    solidPart_trimBlanks]

/-- A line that closes a node has the shape of its last mark. -/
theorem lineShape_of_closesNode {line : Text} (closes : closesNode line = true) :
    lineShape line = .blockClose ∨ lineShape line = .listItem ∨
      lineShape line = .continuation ∨ lineShape line = .blockOpen := by
  rcases (closesNode_iff_dropBlanks line).mp closes with
    bracket | ⟨before, kept, -⟩ | ⟨before, kept, -⟩ | ⟨before, kept, -⟩
  · obtain ⟨before, kept, -⟩ := (endsInBracket_iff _).mp bracket
    exact Or.inl (lineShape_of_last kept nofun)
  · exact Or.inr (Or.inl (lineShape_of_last kept nofun))
  · exact Or.inr (Or.inr (Or.inl (lineShape_of_last kept nofun)))
  · exact Or.inr (Or.inr (Or.inr (lineShape_of_last kept nofun)))

/-- A line that ends with a bracket closes a node. -/
theorem closesNode_of_blockClose {line : Text} (flat : '\n' ∉ line)
    (shape : lineShape line = .blockClose) : closesNode line = true := by
  rcases (LineShape.blockClose.fits_iff line).mpr ⟨nofun, shape⟩ with
    ⟨isHeader, -⟩ | ⟨c, marked, found⟩
  · cases isHeader
  · cases marked
    obtain ⟨before, kept⟩ := (foundInLine_mark_iff (by decide) line).mp found
    refine (closesNode_iff_suffix flat).mpr ⟨[']'], by decide, ?_⟩
    rw [solidPart_of_dropBlanks_reverse kept]
    exact List.suffix_append _ _

/-! ## Lines -/

/-- The shape of a line is that of the trimmed line. The patterns of shapes, that of headers among
them, exclude each other, so that a table of all of them gives the shape in any order. Without line
feeds, a line closes a node if it ends, its blanks left out, with a bracket, a bracket and a comma
or a semicolon, or a bracket, a comma and an opening bracket. So does the trimmed line then, and the
shape is that of the last mark; a line with the shape of a closing bracket closes a node. -/
theorem line_told_by_trimmed_end (line : Text) :
    lineShape line = lineShape (trimBlanks line) ∧
    (isHeader line = true ↔ LineShape.header.Fits line) ∧
    (∀ first second : LineShape, first.Fits line → second.Fits line → first = second) ∧
    (∀ table : List LineShape, table.Perm LineShape.tabled →
      firstShape table line = lineShape line) ∧
    (closesNode line = true ↔ MatchesLine closesPattern line ∨ MatchesLine reopensPattern line) ∧
    ('\n' ∉ line →
      (closesNode line = true ↔ ∃ ending ∈ nodeEndings, ending <:+ solidPart line) ∧
      closesNode line = closesNode (trimBlanks line) ∧
      (closesNode line = true → lineShape line = .blockClose ∨ lineShape line = .listItem ∨
        lineShape line = .continuation ∨ lineShape line = .blockOpen) ∧
      (lineShape line = .blockClose → closesNode line = true)) := by
  refine ⟨(lineShape_trimBlanks line).symm, ?_, ?_, ?_, ?_, ?_⟩
  · rw [isHeader_iff_matchesLine]
    simp [LineShape.Fits, LineShape.endMark]
  · intro first second firstFits secondFits
    rw [← ((first.fits_iff line).mp firstFits).2, ← ((second.fits_iff line).mp secondFits).2]
  · intro table ordered
    exact firstShape_eq_lineShape (fun _ => LineShape.mem_of_perm_tabled ordered) line
  · rw [closesNode_iff, matchesLine_closes_or_reopens_iff]
  · intro flat
    exact ⟨closesNode_iff_suffix flat, (closesNode_trimBlanks flat).symm, lineShape_of_closesNode,
      closesNode_of_blockClose flat⟩

/-- Blanks of several kinds around the marks of a line that closes a node and opens the next, and
the table the other way round. -/
theorem line_told_by_trimmed_end_reopened :
    let line := "\tex:p [ a ex:q ]\u00A0, [\u3000 ".toList
    '\n' ∉ line ∧ [']', ',', '['] <:+ solidPart line ∧ closesNode line = true ∧
      closesNode (trimBlanks line) = true ∧
      firstShape LineShape.tabled.reverse line = .blockOpen := by
  intro line
  have flat : '\n' ∉ line := by decide
  have ends : [']', ',', '['] <:+ solidPart line := by decide
  obtain ⟨-, -, -, anyOrder, -, within⟩ := line_told_by_trimmed_end line
  obtain ⟨byEnding, trimmed, -, -⟩ := within flat
  have closes : closesNode line = true := byEnding.mpr ⟨_, by decide, ends⟩
  have shape : lineShape line = .blockOpen := by decide
  exact ⟨flat, ends, closes, trimmed ▸ closes,
    (anyOrder _ (List.reverse_perm _)).trans shape⟩

end TurtleEdit
