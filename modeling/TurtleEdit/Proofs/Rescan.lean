import TurtleEdit.Proofs.LongStrings
import TurtleEdit.Proofs.Painting
import TurtleEdit.Proofs.Spans
import TurtleEdit.Proofs.Widening

/-!
Highlighting whole lines of a text gives what highlighting the text gives there.

The region asked for is widened, so it may start in the middle of a line, at the opener of a long
string that the first line asked for starts in. The first rule paints that string, so the rest of
the opener's line is painted when the other rules come, and from the next line on they find on both
sides the same. At its end the region stops at the end of a line, where a line feed and the end of
a text mean the same.

The proof follows the coats. The full canvas is kept as three parts, of which the middle one is the
canvas of the region; the first coat establishes this and every later one keeps it.
-/

namespace TurtleEdit

/-! ## Declarations on one line -/

/-- No line feed stands among the blanks that follow a word that declares a namespace. -/
def DeclarationsInLine (text : Text) : Prop :=
  ∀ pos, startsWith "@prefix" (text.drop pos) = true →
    '\n' ∉ (text.drop (pos + 7)).takeWhile isBlank

theorem declarationsInLine_iff {text : Text} : DeclarationsInLine text ↔
    ∀ pos, pos < text.length → startsWith "@prefix" (text.drop pos) = true →
      '\n' ∉ (text.drop (pos + 7)).takeWhile isBlank := by
  refine ⟨fun inLine pos _ => inLine pos, fun inLine pos declares => ?_⟩
  by_cases inside : pos < text.length
  · exact inLine pos inside declares
  · rw [List.drop_eq_nil_of_le (by omega)]
    simp

instance (text : Text) : Decidable (DeclarationsInLine text) :=
  decidable_of_iff _ declarationsInLine_iff.symm

/-- No declaration is open where a line ends. -/
theorem DeclarationsInLine.closed {left text right : Text}
    (inLine : DeclarationsInLine (left ++ (text ++ '\n' :: right))) :
    ¬ EndsInOpenDeclaration text := by
  rintro ⟨_, ⟨front, rfl⟩, blanks, allBlank, rfl⟩
  have split : left ++ (front ++ ("@prefix".toList ++ blanks) ++ '\n' :: right) =
      (left ++ front) ++ ("@prefix".toList ++ (blanks ++ '\n' :: right)) := by
    simp only [List.append_assoc]
  have word : ("@prefix".toList ++ (blanks ++ '\n' :: right)).drop 7 = blanks ++ '\n' :: right :=
    rfl
  rw [split] at inLine
  have oneLine := inLine (left ++ front).length
  rw [← List.drop_drop, List.drop_left, word,
    List.takeWhile_append_of_pos (List.all_eq_true.mp allBlank),
    List.takeWhile_cons_of_pos (by decide)] at oneLine
  exact oneLine (startsWith_iff.mpr (List.prefix_append _ _))
    (List.mem_append_right _ List.mem_cons_self)

/-! ## The middle part of a canvas -/

/-- How a part of a text begins: with the text, with a line, or with characters up to a line feed
that are painted already. -/
inductive PartStart (left part : Text) (canvas : Canvas) : Prop where
  | text (empty : left = [])
  | line (before : Text) (feed : left = before ++ ['\n'])
  | painted (head tail : Text) (front : Canvas) (cell : Option Style) (back : Canvas)
      (feed : part = head ++ '\n' :: tail) (split : canvas = front ++ cell :: back)
      (size : front.length = head.length) (styled : ∀ c ∈ front, c ≠ none)

/-- A text that ends or goes on with a line feed. -/
def EndsLine (right : Text) : Prop := right = [] ∨ ∃ rest, right = '\n' :: rest

section Coats

variable {rule : Rule} {left part right : Text} {leftCanvas canvas rightCanvas : Canvas}

/-- What follows the end of a line does not change the coat before it. -/
theorem Rule.coat_append_endsLine (bound : rule.pattern.lineBound = true)
    (inLine : DeclarationsInLine (left ++ (part ++ right))) (ends : EndsLine right)
    (size : canvas.length = part.length) (rightSize : rightCanvas.length = right.length)
    (before : Option Char) :
    ∃ rightCanvas' : Canvas, rightCanvas'.length = right.length ∧
      rule.coat before (part ++ right) (canvas ++ rightCanvas) =
        rule.coat before part canvas ++ rightCanvas' := by
  rcases ends with rfl | ⟨rest, rfl⟩
  · obtain rfl := List.eq_nil_of_length_eq_zero rightSize
    exact ⟨[], rfl, by simp only [List.append_nil]⟩
  · cases rightCanvas with
    | nil => cases rightSize
    | cons cell others =>
      have othersSize : others.length = rest.length := Nat.succ.inj rightSize
      exact ⟨cell :: rule.coat (some '\n') rest others, by simp [othersSize],
        rule.coat_append_newline bound inLine.closed rest before size cell others⟩

/-- A coat over the whole text lays on the middle part the coat of that part. -/
theorem Rule.coat_part (bound : rule.pattern.lineBound = true) (keeps : rule.overrides = false)
    (inLine : DeclarationsInLine (left ++ (part ++ right))) (ends : EndsLine right)
    (leftSize : leftCanvas.length = left.length) (size : canvas.length = part.length)
    (rightSize : rightCanvas.length = right.length) (starts : PartStart left part canvas) :
    PartStart left part (rule.coat left.getLast? part canvas) ∧
      ∃ leftCanvas' rightCanvas' : Canvas, leftCanvas'.length = left.length ∧
        rightCanvas'.length = right.length ∧
        rule.coat none (left ++ (part ++ right)) (leftCanvas ++ (canvas ++ rightCanvas)) =
          leftCanvas' ++ (rule.coat left.getLast? part canvas ++ rightCanvas') := by
  cases starts with
  | text empty =>
    subst empty
    obtain rfl := List.eq_nil_of_length_eq_zero leftSize
    obtain ⟨rightCanvas', rightSize', coat⟩ :=
      Rule.coat_append_endsLine bound inLine ends size rightSize none
    exact ⟨.text rfl, [], rightCanvas', rfl, rightSize', coat⟩
  | line before feed =>
    subst feed
    have last : (before ++ ['\n']).getLast? = some '\n' := List.getLast?_concat
    obtain ⟨front, cell, rfl⟩ : ∃ front cell, leftCanvas = front ++ [cell] := by
      rcases List.eq_nil_or_concat' leftCanvas with rfl | ⟨front, cell, rfl⟩
      · simp at leftSize
      · exact ⟨front, cell, rfl⟩
    have frontSize : front.length = before.length := by simpa using leftSize
    have inLineAfter : DeclarationsInLine ([] ++ (before ++ '\n' :: (part ++ right))) := by
      simpa using inLine
    obtain ⟨rightCanvas', rightSize', coat⟩ :=
      Rule.coat_append_endsLine bound inLine ends size rightSize (some '\n')
    refine ⟨.line before rfl, rule.coat none before front ++ [cell], rightCanvas',
      by simp [frontSize], rightSize', ?_⟩
    have feed := rule.coat_append_newline bound inLineAfter.closed (part ++ right) none frontSize
      cell (canvas ++ rightCanvas)
    rw [coat] at feed
    rw [last]
    simpa using feed
  | painted head tail front cell back feed split frontSize styled =>
    subst feed split
    have backSize : back.length = tail.length := by simpa [frontSize] using size
    have bothSize : (leftCanvas ++ front).length = (left ++ head).length := by
      simp [leftSize, frontSize]
    have inLineAll : DeclarationsInLine ([] ++ ((left ++ head) ++ '\n' :: (tail ++ right))) := by
      simpa using inLine
    have inLineHead : DeclarationsInLine (left ++ (head ++ '\n' :: (tail ++ right))) := by
      simpa using inLine
    have inLineTail : DeclarationsInLine ((left ++ head ++ ['\n']) ++ (tail ++ right)) := by
      simpa using inLine
    obtain ⟨rightCanvas', rightSize', coatTail⟩ :=
      Rule.coat_append_endsLine bound inLineTail ends backSize rightSize (some '\n')
    obtain ⟨leftCanvas', leftSize', coatHead⟩ :=
      Rule.coat_append_styled keeps none (left ++ head) leftCanvas styled
    obtain ⟨nothing, noSize, coatOwnHead⟩ :=
      Rule.coat_append_styled keeps left.getLast? head [] styled
    obtain rfl := List.eq_nil_of_length_eq_zero noSize
    -- on both sides the painted characters stay, and the next line has its own coat
    have own : rule.coat left.getLast? (head ++ '\n' :: tail) (front ++ cell :: back) =
        front ++ cell :: rule.coat (some '\n') tail back := by
      rw [rule.coat_append_newline bound inLineHead.closed tail _ frontSize]
      exact congrArg (· ++ _) coatOwnHead
    have whole := rule.coat_append_newline bound inLineAll.closed (tail ++ right) none bothSize cell
      (back ++ rightCanvas)
    rw [coatHead, coatTail] at whole
    rw [own]
    refine ⟨.painted head tail front cell _ rfl rfl frontSize styled, leftCanvas', rightCanvas',
      leftSize'.trans leftSize, rightSize', ?_⟩
    simpa using whole

/-- Coat after coat, the middle part of the whole canvas stays the canvas of the middle part. -/
theorem foldl_coat_part {rules : List Rule}
    (bound : ∀ rule ∈ rules, rule.pattern.lineBound = true ∧ rule.overrides = false)
    (inLine : DeclarationsInLine (left ++ (part ++ right))) (ends : EndsLine right)
    (leftSize : leftCanvas.length = left.length) (size : canvas.length = part.length)
    (rightSize : rightCanvas.length = right.length) (starts : PartStart left part canvas) :
    ∃ leftCanvas' rightCanvas' : Canvas, leftCanvas'.length = left.length ∧
      rules.foldl (fun canvas rule => rule.coat none (left ++ (part ++ right)) canvas)
          (leftCanvas ++ (canvas ++ rightCanvas)) =
        leftCanvas' ++ (rules.foldl (fun canvas rule => rule.coat left.getLast? part canvas) canvas
          ++ rightCanvas') := by
  induction rules generalizing leftCanvas canvas rightCanvas with
  | nil => exact ⟨leftCanvas, rightCanvas, leftSize, rfl⟩
  | cons rule rest ih =>
    obtain ⟨lineBound, keeps⟩ := bound rule List.mem_cons_self
    obtain ⟨starts', leftCanvas', rightCanvas', leftSize', rightSize', coat⟩ :=
      Rule.coat_part lineBound keeps inLine ends leftSize size rightSize starts
    rw [List.foldl_cons, List.foldl_cons, coat]
    exact ih (fun other later => bound other (List.mem_cons_of_mem _ later)) leftSize'
      (by rw [Rule.length_coat, size]) rightSize' starts'

/-! ## The coat of long strings -/

theorem drop_eq_cons_of_getElem? {α : Type} {list : List α} {i : Nat} {item : α}
    (here : list[i]? = some item) : list.drop i = item :: list.drop (i + 1) := by
  obtain ⟨inside, rfl⟩ := List.getElem?_eq_some_iff.mp here
  exact List.drop_eq_getElem_cons inside

/-- On a text whose long strings the part does not cut, the first coat is laid part by part. -/
theorem Rule.coat_longString_part (strings : rule.pattern = .longString)
    (agree : LongStringsAgree (left ++ (part ++ right)))
    (uncut : CutsNoLongString left part right) (before : Option Char) :
    ∃ leftCanvas rightCanvas : Canvas, leftCanvas.length = left.length ∧
      rightCanvas.length = right.length ∧
      rule.coat none (left ++ (part ++ right)) (Canvas.empty (left ++ (part ++ right)).length) =
        leftCanvas ++ (rule.coat before part (Canvas.empty part.length) ++ rightCanvas) := by
  obtain ⟨earlier, later, isEarlier, split⟩ := matchesIn_longString_of_uncut agree uncut before
  have leftSize := Canvas.length_empty left.length
  have partSize := Canvas.length_empty part.length
  refine ⟨earlier.foldl rule.paint (Canvas.empty left.length),
    later.foldl rule.paint (Canvas.empty right.length), by simp, by simp, ?_⟩
  have inLeft : ∀ m ∈ earlier, m.Within (Canvas.empty left.length).length := by
    rw [leftSize]
    exact isEarlier
  have inPart : ∀ m ∈ Pattern.longString.matchesIn before part,
      m.Within (Canvas.empty part.length).length := by
    rw [partSize]
    exact fun m member => Pattern.within_of_mem_matchesIn member
  have paintRest := foldl_paint_append rule later (Canvas.empty right.length) inPart
  have paintAll := foldl_paint_append rule
    (Pattern.longString.matchesIn before part ++ later.map (Match.shift part.length))
    (Canvas.empty part.length ++ Canvas.empty right.length) inLeft
  rw [partSize] at paintRest
  rw [leftSize, paintRest] at paintAll
  rw [coat, coat, strings, split, List.length_append, List.length_append, Canvas.empty_add,
    Canvas.empty_add, paintAll]

/-- The long string that the part opens with is found in the part. -/
theorem exists_mem_matchesIn_of_opener (agree : LongStringsAgree (left ++ (part ++ right)))
    (uncut : CutsNoLongString left part right)
    {long : LongString} (member : long ∈ LongString.all (left ++ (part ++ right)))
    (opens : long.opener = left.length) (notEmpty : 0 < part.length) (before : Option Char) :
    ∃ found ∈ Pattern.longString.matchesIn before part, found.start = 0 ∧
      left.length + found.stop = long.stop (left ++ (part ++ right)).length := by
  obtain ⟨earlier, later, isEarlier, split⟩ := matchesIn_longString_of_uncut agree uncut before
  have bounds := LongString.bounds_of_mem_all member
  obtain ⟨m, inPart, start, stop⟩ := exists_mem_inside agree split
    (fun m member => (isEarlier m member).stop_le) member (by omega) (by omega)
  exact ⟨m, inPart, by omega, stop⟩

/-- A part begins painted if the characters before one of its line feeds are painted. -/
theorem PartStart.of_styled {k : Nat} (feed : part[k]? = some '\n')
    (size : canvas.length = part.length)
    (styled : ∀ i, i < k → ∃ style, canvas[i]? = some (some style)) :
    PartStart left part canvas := by
  have inPart : k < part.length := (List.getElem?_eq_some_iff.mp feed).1
  have cell : canvas[k]? = some canvas[k] := List.getElem?_eq_getElem (by omega)
  refine .painted (part.take k) (part.drop (k + 1)) (canvas.take k) canvas[k]
    (canvas.drop (k + 1)) ?_ ?_ ?_ ?_
  · rw [← drop_eq_cons_of_getElem? feed, List.take_append_drop]
  · rw [← drop_eq_cons_of_getElem? cell, List.take_append_drop]
  · rw [List.length_take, List.length_take, size]
  · intro c inFront
    obtain ⟨i, here⟩ := List.getElem?_of_mem inFront
    have bound := (List.getElem?_eq_some_iff.mp here).1
    rw [List.length_take] at bound
    obtain ⟨style, painted⟩ := styled i (by omega)
    rw [List.getElem?_take_of_lt (by omega), painted] at here
    rw [← Option.some.inj here]
    exact Option.some_ne_none style

/-- After the coat of long strings, a part widened from the start of a line begins with the text,
with a line, or painted. -/
theorem PartStart.of_coat_longString (strings : rule.pattern = .longString)
    (keeps : rule.overrides = false) (whole : rule.group = 0)
    (agree : LongStringsAgree (left ++ (part ++ right)))
    (uncut : CutsNoLongString left part right) {pos : Nat}
    (starts : IsLineStart (left ++ (part ++ right)) pos)
    (widened : Region.widenStart (left ++ (part ++ right)) pos = left.length)
    (reached : pos ≤ left.length + part.length) :
    PartStart left part (rule.coat left.getLast? part (Canvas.empty part.length)) := by
  by_cases empty : left = []
  · exact .text empty
  have someLeft : 0 < left.length := List.length_pos_iff.mpr empty
  rcases Region.widenStart_of_isLineStart starts with atStart | same | ⟨long, member, opens, held⟩
  · omega
  · -- the part begins where the line does
    rcases starts with atStart | ⟨feed, after, here⟩
    · omega
    · rw [List.getElem?_append_left (by omega)] at here
      have last : left.drop feed = ['\n'] := by
        rw [drop_eq_cons_of_getElem? here, List.drop_eq_nil_of_le (by omega)]
      refine .line (left.take feed) ?_
      rw [← last, List.take_append_drop]
  · -- the part begins with a long string, which reaches over the line feed before `pos`
    rcases starts with atStart | ⟨feed, after, here⟩
    · omega
    obtain ⟨k, rfl⟩ : ∃ k, feed = left.length + k := ⟨feed - left.length, by omega⟩
    have inPart : k < part.length := by omega
    rw [List.getElem?_append_right (Nat.le_add_right _ _), Nat.add_sub_cancel_left,
      List.getElem?_append_left inPart] at here
    obtain ⟨found, inMatches, start, stop⟩ := exists_mem_matchesIn_of_opener agree uncut member
      (opens.symm.trans widened) (by omega) left.getLast?
    rw [← strings] at inMatches
    refine .of_styled here ?_ fun i before => ?_
    · rw [Rule.length_coat, Canvas.length_empty]
    · exact Rule.exists_getElem?_coat keeps whole inMatches (by omega) (by omega)

end Coats

/-! ## Whole lines -/

/-- The first rule paints long strings, the others stay in a line, and none paints over another. -/
def StringsFirst : List Rule → Prop
  | [] => False
  | first :: others =>
    first.pattern = .longString ∧ first.overrides = false ∧ first.group = 0 ∧
      ∀ rule ∈ others, rule.pattern.lineBound = true ∧ rule.overrides = false

/-- The canvas of a widened part is the middle of the canvas of the whole text. -/
theorem foldl_coat_lines {rules : List Rule} (table : StringsFirst rules)
    {left part right : Text} (agree : LongStringsAgree (left ++ (part ++ right)))
    (inLine : DeclarationsInLine (left ++ (part ++ right)))
    (uncut : CutsNoLongString left part right) (ends : EndsLine right) {pos : Nat}
    (starts : IsLineStart (left ++ (part ++ right)) pos)
    (widened : Region.widenStart (left ++ (part ++ right)) pos = left.length)
    (reached : pos ≤ left.length + part.length) :
    ∃ leftCanvas rightCanvas : Canvas, leftCanvas.length = left.length ∧
      rules.foldl (fun canvas rule => rule.coat none (left ++ (part ++ right)) canvas)
          (Canvas.empty (left ++ (part ++ right)).length) =
        leftCanvas ++ (rules.foldl (fun canvas rule => rule.coat left.getLast? part canvas)
          (Canvas.empty part.length) ++ rightCanvas) := by
  cases rules with
  | nil => exact table.elim
  | cons first others =>
    obtain ⟨strings, keeps, whole, bound⟩ := table
    obtain ⟨leftCanvas, rightCanvas, leftSize, rightSize, coat⟩ :=
      Rule.coat_longString_part strings agree uncut left.getLast?
    rw [List.foldl_cons, List.foldl_cons, coat]
    refine foldl_coat_part bound inLine ends leftSize ?_ rightSize ?_
    · rw [Rule.length_coat, Canvas.length_empty]
    · exact .of_coat_longString strings keeps whole agree uncut starts widened reached

theorem EndsLine.drop {text : Text} {pos : Nat} (ends : IsLineEnd text pos) :
    EndsLine (text.drop pos) := by
  rcases ends with feed | rfl
  · exact Or.inr ⟨_, drop_eq_cons_of_getElem? feed⟩
  · exact Or.inl List.drop_length

namespace Region

/-- A text is what comes before a region, the region, and what comes after it. -/
theorem take_append_body_append_drop {region : Region} (text : Text)
    (ordered : region.start ≤ region.stop) :
    text.take region.start ++ (region.body text ++ text.drop region.stop) = text := by
  have rest : text.drop region.stop =
      (text.drop region.start).drop (region.stop - region.start) := by
    rw [List.drop_drop, Nat.add_sub_cancel' ordered]
  rw [body, rest, List.take_append_drop, List.take_append_drop]

end Region

/-- A widened region of whole lines is painted as it is painted in the whole text. -/
theorem paintRegion_lines {rules : List Rule} (table : StringsFirst rules)
    (groups : ∀ rule ∈ rules, rule.groupExists = true) {text : Text}
    (agree : LongStringsAgree text) (inLine : DeclarationsInLine text) {region : Region}
    (inside : region.stop ≤ text.length)
    (uncut : ∀ long ∈ LongString.all text, ¬ long.Cuts text.length region.start ∧
      ¬ long.Cuts text.length region.stop)
    (ends : IsLineEnd text region.stop) {pos : Nat} (starts : IsLineStart text pos)
    (widened : Region.widenStart text pos = region.start) (back : region.start ≤ pos)
    (onward : pos ≤ region.stop) :
    ∃ full, paintRegion rules text ⟨0, text.length⟩ = .ok full ∧
      paintRegion rules text region = .ok ((full.take region.stop).drop region.start) := by
  have ordered : region.start ≤ region.stop := Nat.le_trans back onward
  have split := Region.take_append_body_append_drop text ordered
  have leftSize : (text.take region.start).length = region.start := by
    rw [List.length_take]
    omega
  have partSize : (region.body text).length = region.stop - region.start := by
    rw [Region.body, List.length_take, List.length_drop]
    omega
  have bothSize : (text.take region.start).length + (region.body text).length = region.stop := by
    omega
  have uncutPart : CutsNoLongString (text.take region.start) (region.body text)
      (text.drop region.stop) := by
    rwa [CutsNoLongString, split, bothSize, leftSize]
  obtain ⟨leftCanvas, rightCanvas, leftCanvasSize, coats⟩ :=
    foldl_coat_lines table (by rwa [split]) (by rwa [split]) uncutPart (.drop ends)
      (by rwa [split]) (by rw [split, widened, leftSize]) (by omega)
  have canvasSize := length_foldl_coat rules (text.take region.start).getLast? (region.body text)
    (Canvas.empty (region.body text).length)
  rw [Canvas.length_empty] at canvasSize
  have wholeBody : Region.body ⟨0, text.length⟩ text = text := by
    rw [Region.body, List.drop_zero, Nat.sub_zero, List.take_length]
  have paintedFull := paintRegion_eq_foldl_coat groups text ⟨0, text.length⟩
  have painted := paintRegion_eq_foldl_coat groups text region
  rw [split] at coats
  rw [wholeBody, Region.before, List.take_zero, List.getLast?_nil, coats] at paintedFull
  rw [Region.before] at painted
  generalize rules.foldl (fun canvas rule => rule.coat (text.take region.start).getLast?
    (region.body text) canvas) (Canvas.empty (region.body text).length) = canvas
    at paintedFull painted canvasSize
  refine ⟨_, paintedFull, ?_⟩
  have startEq : region.start = leftCanvas.length := by omega
  have stopEq : region.stop = leftCanvas.length + canvas.length := by omega
  rw [painted, startEq, stopEq, List.take_length_add_append, List.drop_left, List.take_left]

theorem stringsFirst_standardRules : StringsFirst standardRules :=
  ⟨rfl, rfl, rfl, by decide⟩

theorem groupExists_standardRules : ∀ rule ∈ standardRules, rule.groupExists = true := by decide

/-- The pattern finds the long strings of every text without a backslash. On a text where it does,
and no declaration is broken over lines, highlighting whole lines gives the spans of the whole text
clipped to the widened region. -/
theorem classify_lines_eq_clipSpans (text : Text) :
    ('\\' ∉ text → LongStringsAgree text) ∧
    (LongStringsAgree text → DeclarationsInLine text → ∀ start stop : Nat,
      IsLineStart text start → IsLineEnd text stop → start ≤ stop →
      let wide := (Region.extend text start stop).1
      ∃ full, classify standardRules text 0 none = .ok full ∧
        classify standardRules text start (some stop) =
          .ok (clipSpans wide.start wide.stop full)) := by
  refine ⟨longStringsAgree_of_no_backslash, fun agree inLine start stop starts ends ordered => ?_⟩
  intro wide
  have wideEq : wide = ⟨Region.widenStart text start, Region.widenStop text stop⟩ :=
    Region.extend_of_le ordered ends.le_length
  have startEq : Region.widenStart text start = wide.start := by rw [wideEq]
  have stopEq : Region.widenStop text stop = wide.stop := by rw [wideEq]
  obtain ⟨back, startFree⟩ := Region.widenStart_spec text start
  obtain ⟨onward, inside, stopFree⟩ := Region.widenStop_spec ends.le_length
  have endsWide := Region.isLineEnd_widenStop ends
  rw [startEq] at back startFree
  rw [stopEq] at onward inside stopFree endsWide
  obtain ⟨full, paintedFull, painted⟩ := paintRegion_lines stringsFirst_standardRules
    groupExists_standardRules agree inLine inside
    (fun long member => ⟨startFree long member, stopFree long member⟩) endsWide starts startEq back
    (Nat.le_trans ordered onward)
  refine ⟨full.spans 0, ?_, ?_⟩
  · exact classify_of_paintRegion text 0 none (Region.extend_whole text) paintedFull
  · have part := Canvas.clipSpans_spans wide.start wide.stop 0 full
    rw [Nat.sub_zero, Nat.sub_zero, Nat.zero_max] at part
    rw [part]
    exact classify_of_paintRegion text start (some (stop : Int)) rfl painted

/-- The line asked for starts in a long string, whose opener stands in the middle of the line
before; the region is widened to the opener. -/
theorem classify_lines_eq_clipSpans_inside :
    let text := "a b \"\"\"c\nd\"\"\" e:f .\n# g".toList
    let wide := (Region.extend text 9 19).1
    wide = ⟨4, 19⟩ ∧
      (classify standardRules text 9 (some 19)).toOption =
        some [⟨4, 13, .string⟩, ⟨14, 17, .prefixedName⟩, ⟨18, 19, .punctuation⟩] ∧
      ∃ full, classify standardRules text 0 none = .ok full ∧
        classify standardRules text 9 (some 19) =
          .ok (clipSpans wide.start wide.stop full) := by
  intro text wide
  have lines := classify_lines_eq_clipSpans text
  refine ⟨by decide, by decide +kernel, ?_⟩
  exact lines.2 (lines.1 (by decide)) (by decide +kernel) 9 19 (Or.inr ⟨8, rfl, rfl⟩) (Or.inl rfl)
    (by decide)

end TurtleEdit
