import TurtleEdit.Proofs.Phases

/-!
Highlighting from behind a long string.

A region that is asked for on the line where a long string ends, behind its end, is widened to the
end of the last long string before it, or to the opener of the one that holds its start, and not to
the start of the line. So a scan of the region begins in the middle of a line, beside a quote of a
long string, while the scan of the text comes there with what it has found before: strings that it
pairs up from the start of the line, a comment that began before or in the long string, an iri. The
two give the same spans exactly if each rule, on the canvas that the rules before it leave, resumes
the scan of the text there. They do if no match reaches over the start of the region.
-/

namespace TurtleEdit

/-! ## Overhangs of long strings -/

section Middle

variable {left part right : Text}

/-- A part that cuts no long string has no overhang of one. -/
theorem Pattern.exists_overhang_longString (agree : LongStringsAgree (left ++ (part ++ right)))
    (uncut : CutsNoLongString left part right) :
    ∃ earlier, Pattern.longString.Overhang (left ++ (part ++ right)) (.middle left part)
      earlier 0 := by
  obtain ⟨earlier, later, isEarlier, split⟩ :=
    matchesIn_longString_of_uncut agree uncut left.getLast?
  have scan := Pattern.isScan_matchesIn Pattern.consumes_longString none (left ++ (part ++ right))
  refine ⟨earlier, Nat.le_add_right _ _, fun m inside => ?_, fun m member => ?_, Nat.zero_le _,
    Or.inl rfl⟩
  · have shifted := matchesFrom_add .longString left.length 0 0 left.getLast? part
    have notLater : m ∉ (later.map (Match.shift part.length)).map (Match.shift left.length) := by
      intro behind
      obtain ⟨_, inLater, rfl⟩ := List.mem_map.mp behind
      obtain ⟨m, -, rfl⟩ := List.mem_map.mp inLater
      simp only [Region.middle, Match.shift] at inside
      omega
    rw [Region.before_middle, Region.body_middle, Region.middle, split, List.mem_append,
      List.map_append, List.mem_append, matchesIn, ← shifted, or_iff_left notLater]
    rfl
  · have inText : m ∈ Pattern.longString.matchesIn none (left ++ (part ++ right)) := by
      rw [split]
      exact List.mem_append_left _ member
    have filled := scan.start_lt_stop Pattern.consumes_longString inText
    have stops := (isEarlier m member).stop_le
    exact ⟨Nat.lt_of_lt_of_le filled stops, stops⟩

end Middle

/-! ## Painted to a quote -/

theorem paintedToQuote_empty (text : Text) (size : Nat) :
    PaintedToQuote text (Canvas.empty size) := by
  intro i style painted
  rw [Canvas.empty, List.getElem?_replicate] at painted
  split at painted
  · cases painted
  · cases painted

/-- Matches that are painted as a whole and end with a quote, or with the text, leave no gap behind
another character. -/
theorem PaintedToQuote.coat {rule : Rule} {text : Text} {canvas : Canvas}
    (solid : PaintedToQuote text canvas) (keeps : rule.overrides = false)
    (whole : rule.group = 0) (size : canvas.length = text.length)
    (ends : ∀ m ∈ rule.pattern.matchesIn none text,
      m.stop = text.length ∨ text[m.stop - 1]? = some '"') :
    PaintedToQuote text (rule.coat none text canvas) := by
  intro i style painted other free
  rcases rule.getElem?_coat keeps none text canvas (i + 1) with ⟨-, next⟩ | ⟨unpainted, next⟩
  · rw [next] at free
    cases free
  · rw [next] at free
    rcases rule.getElem?_coat keeps none text canvas i with ⟨⟨m, member, paints⟩, -⟩ | ⟨-, here⟩
    · have aims := Rule.target_of_whole whole m
      obtain ⟨-, starts, low, high⟩ := (Rule.paints_iff aims).mp paints
      by_cases more : i + 1 < m.stop
      · exact unpainted ⟨m, member, (Rule.paints_iff aims).mpr ⟨free, starts, by omega, more⟩⟩
      · have last : m.stop = i + 1 := by omega
        rcases ends m member with atEnd | quote
        · have inside := (List.getElem?_eq_some_iff.mp free).1
          omega
        · rw [last] at quote
          exact other quote
    · rw [here] at painted
      exact solid i style painted other free

/-- A closed long string ends with a quote. -/
theorem LongString.quote_of_closed {text : Text} {long : LongString} (member : long ∈ all text)
    {closer : Nat} (closes : long.closer = some closer) : text[closer + 2]? = some '"' :=
  getElem?_of_tripleAt (tripleAt_of_mem_delimiters ((of_mem_pair member).2 closer closes))
    (by decide)

/-- After the coats of long strings and of strings, what is painted is painted to a quote. -/
theorem paintedToQuote_coat_longString {rule : Rule} {text : Text} (agree : LongStringsAgree text)
    (strings : rule.pattern = .longString) (keeps : rule.overrides = false)
    (whole : rule.group = 0) :
    PaintedToQuote text (rule.coat none text (Canvas.empty text.length)) := by
  refine (paintedToQuote_empty text text.length).coat keeps whole (Canvas.length_empty _) ?_
  intro m member
  rw [strings, agree] at member
  obtain ⟨⟨opener, closes⟩, inAll, rfl⟩ := List.mem_map.mp member
  cases closes with
  | none => exact Or.inl rfl
  | some closer => exact Or.inr (LongString.quote_of_closed inAll rfl)

theorem PaintedToQuote.coat_string {rule : Rule} {text : Text} {canvas : Canvas}
    (solid : PaintedToQuote text canvas) (plain : '\\' ∉ text) (strings : rule.pattern = .string)
    (keeps : rule.overrides = false) (whole : rule.group = 0)
    (size : canvas.length = text.length) : PaintedToQuote text (rule.coat none text canvas) := by
  refine solid.coat keeps whole size fun m member => Or.inr ?_
  obtain ⟨p, hit, here, rfl, -⟩ := Pattern.hit_of_mem_matchesFrom member
  obtain ⟨body, rest, split, -, rfl⟩ := Pattern.exists_of_hit_string strings
    (fun inRest => plain (List.mem_of_mem_drop inRest)) here
  have last : (Hit.place (.whole (body.length + 2)) (0 + p)).stop - 1 = p + (body.length + 1) := by
    simp only [Hit.place, Hit.whole]
    omega
  rw [last, ← List.getElem?_drop, split, List.getElem?_cons_succ,
    List.getElem?_append_right (Nat.le_refl _), Nat.sub_self]
  rfl

/-! ## The start of the region -/

/-- Where a long string is opened before an offset, there is a last one. -/
theorem LongString.getLast?_opened_ne_none {text : Text} {long : LongString}
    (member : long ∈ all text) {pos : Nat} (opened : long.opener < pos) :
    ((all text).takeWhile (·.opener < pos)).getLast? ≠ none := by
  have ordered := all_pairwise text
  have bounds := fun other (inAll : other ∈ all text) => bounds_of_mem_all inAll
  cases longs : all text with
  | nil =>
    rw [longs] at member
    cases member
  | cons first rest =>
    rw [longs] at member ordered bounds
    have early : first.opener < pos := by
      rcases List.mem_cons.mp member with rfl | later
      · exact opened
      · have apart := (List.pairwise_cons.mp ordered).1 long later
        have firstBounds := (bounds first List.mem_cons_self).1
        omega
    rw [List.takeWhile_cons_of_pos (by simpa using early), Ne, List.getLast?_eq_none_iff]
    exact List.cons_ne_nil _ _

/-- On the line where a long string ends, a region that starts behind it is widened to a place
beside a quote of a long string. -/
theorem Region.exists_besideQuote_widenStart {text : Text} {long : LongString}
    (member : long ∈ LongString.all text) {closer : Nat} (closes : long.closer = some closer)
    {start : Nat} (behind : closer + 3 ≤ start) (sameLine : lineStart text start ≤ closer + 3) :
    ∃ s, BesideQuote text (widenStart text start) s ∧
      ∃ other ∈ LongString.all text, other.opener ≤ s ∧ s < other.stop text.length := by
  have stops : long.stop text.length = closer + 3 := by rw [LongString.stop, closes]
  have bounds := LongString.bounds_of_mem_all member
  unfold widenStart
  split
  case h_1 none =>
    exact absurd none (LongString.getLast?_opened_ne_none member (by omega))
  case h_2 last isLast =>
    obtain ⟨inAll, opened, others⟩ := LongString.of_getLast?_opened isLast
    have lastBounds := LongString.bounds_of_mem_all inAll
    have after : closer + 3 ≤ last.stop text.length := by
      rcases others long member (by omega) with rfl | before
      · exact Nat.le_of_eq stops.symm
      · omega
    split
    case isTrue held =>
      have quote := getElem?_of_tripleAt
        (tripleAt_of_mem_delimiters (LongString.of_mem_pair inAll).1) (show 0 < 3 by decide)
      exact ⟨last.opener, ⟨Or.inr rfl, quote⟩, last, inAll, Nat.le_refl _, by omega⟩
    case isFalse free =>
      rw [Nat.max_eq_right (Nat.le_trans sameLine after)]
      rcases last with ⟨opener, _ | lastCloser⟩
      · simp only [LongString.holds, Bool.and_true, decide_eq_true_eq] at free
        exact absurd opened free
      · have quote := LongString.quote_of_closed inAll rfl
        simp only [LongString.stop] at lastBounds ⊢
        exact ⟨lastCloser + 2, ⟨Or.inl rfl, quote⟩, _, inAll, by dsimp only; omega,
          Nat.lt_succ_self _⟩

/-- The characters of long strings are painted first. -/
theorem Rule.exists_getElem?_coat_longString {rule : Rule} {text : Text}
    (agree : LongStringsAgree text) (strings : rule.pattern = .longString)
    (keeps : rule.overrides = false) (whole : rule.group = 0) {long : LongString}
    (member : long ∈ LongString.all text) {i : Nat} (low : long.opener ≤ i)
    (high : i < long.stop text.length) :
    ∃ style, (rule.coat none text (Canvas.empty text.length))[i]? = some (some style) := by
  have inText : long.toMatch text.length ∈ rule.pattern.matchesIn none text := by
    rw [strings, agree]
    exact List.mem_map_of_mem member
  exact exists_getElem?_coat keeps whole inText low high

/-! ## Rule tables -/

section Tables

variable {rule : Rule} {rules rest : List Rule} {text : Text} {region : Region} {canvas : Canvas}

/-- Every rule of a table has an overhang at the start of a region. -/
def HaveOverhangs (text : Text) (region : Region) (rules : List Rule) : Prop :=
  ∀ rule ∈ rules, ∃ earlier k, rule.pattern.Overhang text region earlier k

/-- Rules of which no match reaches over the start of the region resume the scan of the text. -/
theorem resumesAll_of_uncrossed (overhangs : HaveOverhangs text region rules)
    (uncrossed : ∀ rule ∈ rules, ∀ m ∈ rule.pattern.matchesIn none text,
      ¬ (m.start < region.start ∧ region.start < m.stop)) :
    ResumesAll text region rules canvas := by
  induction rules generalizing canvas with
  | nil => exact trivial
  | cons rule rest ih =>
    obtain ⟨earlier, k, overhang⟩ := overhangs rule List.mem_cons_self
    refine ⟨Rule.resumes_of_no_overhang overhang ?_,
      ih (fun other later => overhangs other (List.mem_cons_of_mem _ later))
        (fun other later => uncrossed other (List.mem_cons_of_mem _ later))⟩
    rcases overhang.reach with none | ⟨m, member, stops⟩
    · exact none
    · by_contra present
      refine uncrossed rule List.mem_cons_self m (overhang.mem_of_earlier member) ⟨?_, by omega⟩
      exact (overhang.early m member).1

/-- If the canvases are the same at the end, a first rule that resumes the scan leaves it to the
others to resume it. -/
theorem resumesAll_cons_of_keepsPart (keeps : rule.overrides = false)
    (resumes : rule.Resumes text region canvas)
    (kept : KeepsPart (rule :: rest) text region canvas)
    (later : KeepsPart rest text region (rule.coat none text canvas) →
      ResumesAll text region rest (rule.coat none text canvas)) :
    ResumesAll text region (rule :: rest) canvas :=
  ⟨resumes, later ((keepsPart_cons_iff keeps resumes.paintsAlike).mp kept)⟩

/-- Beside a quote the rules for words resume the scan of the text, if the canvases are the same at
the end. -/
theorem resumesAll_words (keeps : ∀ rule ∈ rules, rule.overrides = false)
    (each : ∀ rule ∈ rules,
      rule.pattern.holdsNoQuote = true ∨ rule.pattern.isIriPattern = true)
    (told : rules.Pairwise fun rule later =>
      rule.pattern.isIriPattern = true → later.style ≠ rule.style)
    (overhangs : HaveOverhangs text region rules) {s : Nat}
    (beside : BesideQuote text region.start s) (kept : KeepsPart rules text region canvas) :
    ResumesAll text region rules canvas := by
  induction rules generalizing canvas with
  | nil => exact trivial
  | cons rule rest ih =>
    obtain ⟨earlier, k, overhang⟩ := overhangs rule List.mem_cons_self
    obtain ⟨toldRule, toldRest⟩ := List.pairwise_cons.mp told
    have resumes : rule.Resumes text region canvas := by
      rcases each rule List.mem_cons_self with quiet | forIri
      · exact Rule.resumes_of_holdsNoQuote overhang beside quiet
      · exact Rule.resumes_of_isIriPattern overhang beside forIri
          (kept.paintsAlike keeps fun other later => toldRule other later forIri)
    refine resumesAll_cons_of_keepsPart (keeps rule List.mem_cons_self) resumes kept ?_
    exact ih (fun other later => keeps other (List.mem_cons_of_mem _ later))
      (fun other later => each other (List.mem_cons_of_mem _ later)) toldRest
      (fun other later => overhangs other (List.mem_cons_of_mem _ later))

end Tables

/-! ## The standard rules -/

/-- A region is the middle of what comes before it, itself, and what comes after it. -/
theorem Region.middle_take_body {text : Text} {region : Region}
    (ordered : region.start ≤ region.stop) (inside : region.stop ≤ text.length) :
    middle (text.take region.start) (region.body text) = region := by
  have start : (text.take region.start).length = region.start :=
    List.length_take_of_le (Nat.le_trans ordered inside)
  have size : (region.body text).length = region.stop - region.start := by
    rw [body, List.length_take, List.length_drop]
    omega
  rw [middle, start, size, Nat.add_sub_cancel' ordered]

section Standard

variable {text : Text} {region : Region}

/-- A region that stops with a line and cuts no long string has an overhang for every standard
rule, and none for long strings. -/
theorem exists_overhang_standardRules (agree : LongStringsAgree text)
    (inLine : DeclarationsInLine text) (ordered : region.start ≤ region.stop)
    (ends : IsLineEnd text region.stop)
    (uncut : ∀ long ∈ LongString.all text, ¬ long.Cuts text.length region.start ∧
      ¬ long.Cuts text.length region.stop) :
    (∃ earlier, Pattern.longString.Overhang text region earlier 0) ∧
      HaveOverhangs text region standardRules := by
  have split := Region.take_append_body_append_drop text ordered
  have isMiddle := Region.middle_take_body ordered ends.le_length
  have uncutPart : CutsNoLongString (text.take region.start) (region.body text)
      (text.drop region.stop) := by
    have start := congrArg Region.start isMiddle
    have stop := congrArg Region.stop isMiddle
    simp only [Region.middle] at start stop
    rwa [CutsNoLongString, split, stop, start]
  have long := Pattern.exists_overhang_longString (by rwa [split]) uncutPart
  rw [split, isMiddle] at long
  refine ⟨long, fun rule member => ?_⟩
  obtain ⟨strings, -, -, bound⟩ := stringsFirst_standardRules
  rcases List.mem_cons.mp member with rfl | later
  · obtain ⟨earlier, overhang⟩ := long
    exact ⟨earlier, 0, overhang⟩
  · have own := @Pattern.exists_overhang rule.pattern (text.take region.start) (region.body text)
      (text.drop region.stop) (bound rule later).1 (by rwa [split]) (.drop ends)
    rwa [split, isMiddle] at own

/-- The rule for long strings. -/
def longStringRule : Rule := ⟨"long-string", .longString, .string, 0, false⟩

/-- The rule for comments. -/
def commentRule : Rule := ⟨"comment", .comment, .comment, 1, false⟩

theorem standardRules_eq :
    standardRules = longStringRule :: stringRule :: commentRule :: wordRules := rfl

theorem overrides_standardRules : ∀ rule ∈ standardRules, rule.overrides = false := by decide

/-- Beside a quote of a long string the standard rules resume the scan of the text, if the canvases
are the same at the end. -/
theorem resumesAll_standardRules (plain : '\\' ∉ text)
    (long : ∃ earlier, Pattern.longString.Overhang text region earlier 0)
    (overhangs : HaveOverhangs text region standardRules) {s : Nat}
    (beside : BesideQuote text region.start s) {string : LongString}
    (member : string ∈ LongString.all text) (low : string.opener ≤ s)
    (high : s < string.stop text.length)
    (kept : KeepsPart standardRules text region (Canvas.empty text.length)) :
    ResumesAll text region standardRules (Canvas.empty text.length) := by
  have agree := longStringsAgree_of_no_backslash plain
  have keeps := overrides_standardRules
  rw [standardRules_eq] at kept overhangs keeps ⊢
  obtain ⟨earlier, longOverhang⟩ := long
  refine @resumesAll_cons_of_keepsPart longStringRule _ _ _ _ rfl
    (Rule.resumes_of_no_overhang longOverhang rfl) kept fun kept => ?_
  -- the quote beside the start is painted, for strings
  obtain ⟨-, keeps⟩ := List.forall_mem_cons.mp keeps
  obtain ⟨-, overhangs⟩ := List.forall_mem_cons.mp overhangs
  obtain ⟨⟨_, _, overhang⟩, overhangs⟩ := List.forall_mem_cons.mp overhangs
  obtain ⟨style, painted⟩ := @Rule.exists_getElem?_coat_longString longStringRule _ agree rfl rfl
    rfl _ member s low high
  have resumes := Rule.resumes_of_string overhang rfl plain rfl beside painted
    (kept.paintsAlike keeps (by decide))
  refine resumesAll_cons_of_keepsPart rfl resumes kept fun kept => ?_
  -- and then all is painted to a quote, for comments
  obtain ⟨-, keeps⟩ := List.forall_mem_cons.mp keeps
  obtain ⟨⟨_, _, overhang⟩, overhangs⟩ := List.forall_mem_cons.mp overhangs
  have solid := @paintedToQuote_coat_longString longStringRule _ agree rfl rfl rfl
  have solid := @PaintedToQuote.coat_string stringRule _ _ solid plain rfl rfl rfl (by simp)
  have resumes := Rule.resumes_of_comment overhang beside rfl
    (kept.paintsAlike keeps (by decide)) solid
  refine resumesAll_cons_of_keepsPart rfl resumes kept fun kept => ?_
  obtain ⟨-, keeps⟩ := List.forall_mem_cons.mp keeps
  exact resumesAll_words keeps (by decide) (by decide) overhangs beside kept

end Standard

/-! ## Spans -/

theorem Canvas.part_empty (text : Text) (region : Region) :
    (Canvas.empty text.length).part region = Canvas.empty (region.body text).length := by
  rw [Canvas.part, Canvas.empty, Canvas.empty, List.take_replicate, List.drop_replicate,
    Region.body, List.length_take, List.length_drop]
  congr 1
  omega

/-- A region is highlighted as the text is highlighted there exactly if its canvas is the part of
the canvas of the text. -/
theorem classify_eq_clipSpans_iff {rules : List Rule}
    (groups : ∀ rule ∈ rules, rule.groupExists = true) (text : Text) (start : Int)
    (stop : Option Int) :
    let wide := (Region.extend text start (stop.getD text.length)).1
    ∃ full part, classify rules text 0 none = .ok full ∧
      classify rules text start stop = .ok part ∧
      (part = clipSpans wide.start wide.stop full ↔
        KeepsPart rules text wide (Canvas.empty text.length)) := by
  intro wide
  have painted := paintRegion_eq_foldl_coat groups text wide
  refine ⟨_, _, classify_whole groups text, classify_of_paintRegion text start stop rfl painted, ?_⟩
  have clipped := Canvas.clipSpans_spans wide.start wide.stop 0 (coats rules text)
  rw [Nat.sub_zero, Nat.sub_zero, Nat.zero_max] at clipped
  rw [clipped, KeepsPart, Canvas.part_empty, eq_comm, ← coats, ← Canvas.part]
  refine Canvas.spans_inj ?_
  have size : (coats rules text).length = (Canvas.empty text.length).length :=
    length_foldl_coat _ _ _ _
  have partSize := congrArg List.length (Canvas.part_empty text wide)
  rw [length_foldl_coat, ← partSize, Canvas.part, Canvas.part, List.length_drop, List.length_drop,
    List.length_take, List.length_take, size]

/-- Highlighting from behind the end of a long string, on the line where it ends, to the end of a
line: the spans are those of the whole text clipped to the widened region exactly if each rule
resumes the scan of the text at the start of that region. That is so if no match of a rule reaches
over it. -/
theorem classify_behind_longString_iff {text : Text} (plain : '\\' ∉ text)
    (inLine : DeclarationsInLine text) {long : LongString} (member : long ∈ LongString.all text)
    {closer : Nat} (closes : long.closer = some closer) {start stop : Nat}
    (behind : closer + 3 ≤ start) (sameLine : lineStart text start ≤ closer + 3)
    (ends : IsLineEnd text stop) (ordered : start ≤ stop) :
    let wide := (Region.extend text start stop).1
    ∃ full part, classify standardRules text 0 none = .ok full ∧
      classify standardRules text start (some stop) = .ok part ∧
      (part = clipSpans wide.start wide.stop full ↔
        ResumesAll text wide standardRules (Canvas.empty text.length)) ∧
      ((∀ rule ∈ standardRules, ∀ m ∈ rule.pattern.matchesIn none text,
          ¬ (m.start < wide.start ∧ wide.start < m.stop)) →
        part = clipSpans wide.start wide.stop full) := by
  intro wide
  have wideEq : wide = ⟨Region.widenStart text start, Region.widenStop text stop⟩ :=
    Region.extend_of_le ordered ends.le_length
  have startEq : Region.widenStart text start = wide.start := by rw [wideEq]
  have stopEq : Region.widenStop text stop = wide.stop := by rw [wideEq]
  obtain ⟨back, startFree⟩ := Region.widenStart_spec text start
  obtain ⟨onward, -, stopFree⟩ := Region.widenStop_spec ends.le_length
  have endsWide := Region.isLineEnd_widenStop ends
  obtain ⟨s, beside, string, inAll, low, high⟩ :=
    Region.exists_besideQuote_widenStart member closes behind sameLine
  rw [startEq] at back startFree beside
  rw [stopEq] at onward stopFree endsWide
  obtain ⟨noLong, overhangs⟩ := exists_overhang_standardRules
    (longStringsAgree_of_no_backslash plain) inLine (by omega) endsWide
    fun long member => ⟨startFree long member, stopFree long member⟩
  obtain ⟨full, part, whole, restricted, same⟩ :=
    classify_eq_clipSpans_iff groupExists_standardRules text start (some (stop : Int))
  have resumes : part = clipSpans wide.start wide.stop full ↔
      ResumesAll text wide standardRules (Canvas.empty text.length) := by
    refine same.trans ⟨?_, keepsPart_of_resumesAll overrides_standardRules⟩
    exact resumesAll_standardRules plain noLong overhangs beside inAll low high
  exact ⟨full, part, whole, restricted, resumes,
    fun uncrossed => resumes.mpr (resumesAll_of_uncrossed overhangs uncrossed)⟩

/-- Nothing reaches over the end of the first long string; the region is widened over the second
one. -/
theorem classify_behind_longString_iff_closed :
    let text := "ex:a ex:p \"\"\"x\"\"\" .\nex:b ex:p \"\"\"b\nc\"\"\" .\n".toList
    let wide := (Region.extend text 17 19).1
    wide = ⟨17, 41⟩ ∧ ∃ full part, classify standardRules text 0 none = .ok full ∧
      classify standardRules text 17 (some 19) = .ok part ∧
      part = clipSpans wide.start wide.stop full := by
  intro text wide
  have isWide : wide = ⟨17, 41⟩ := by decide +kernel
  have uncrossed : ∀ rule ∈ standardRules, ∀ m ∈ rule.pattern.matchesIn none text,
      ¬ (m.start < wide.start ∧ wide.start < m.stop) := by
    rw [isWide]
    decide +kernel
  obtain ⟨full, part, whole, restricted, -, same⟩ :=
    @classify_behind_longString_iff text (by decide) (by decide +kernel) ⟨10, some 14⟩
      (by decide +kernel) 14 rfl 17 19 (by decide) (by decide) (Or.inl rfl) (by decide)
  exact ⟨isWide, full, part, whole, restricted, same uncrossed⟩

/-- Behind a long string over two lines the quotes of the second line pair up differently: the whole
text has no string there, and the region finds one. -/
theorem classify_behind_longString_differs :
    let text := "\"\"\"a\nb\"\"\" \"c\"".toList
    let wide := (Region.extend text 9 13).1
    '\\' ∉ text ∧ DeclarationsInLine text ∧ ⟨0, some 6⟩ ∈ LongString.all text ∧
      lineStart text 9 ≤ 6 + 3 ∧ IsLineEnd text 13 ∧ wide = ⟨9, 13⟩ ∧
      (classify standardRules text 9 (some 13)).toOption = some [⟨10, 13, .string⟩] ∧
      (classify standardRules text 0 none).toOption.map (clipSpans wide.start wide.stop) =
        some [] := by
  refine ⟨by decide, by decide +kernel, by decide, by decide, Or.inr rfl, by decide,
    by decide +kernel, by decide +kernel⟩

end TurtleEdit
