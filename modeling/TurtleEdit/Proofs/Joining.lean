import TurtleEdit.Proofs.Escapes
import TurtleEdit.Proofs.Rescan

/-!
Two texts joined by a line feed are highlighted each for itself.

A line feed ends every pattern but that of long strings as the end of a text does, and looking back
it counts as the start of a text. A long string that the first text closes is read no further in the
joined text. One that it leaves open would run on, so the first text must close all of its own. An
attempt to read one that fails in the first text fails in the joined text too: what stopped it was a
backslash before a line feed, either one of the text or the one that joins.
-/

namespace TurtleEdit

/-! ## Whole texts -/

/-- The canvas of a text after all rules. -/
def coats (rules : List Rule) (text : Text) : Canvas :=
  rules.foldl (fun canvas rule => rule.coat none text canvas) (Canvas.empty text.length)

/-- Highlighting a whole text reports the spans of its canvas. -/
theorem classify_whole {rules : List Rule} (groups : ∀ rule ∈ rules, rule.groupExists = true)
    (text : Text) : classify rules text 0 none = .ok ((coats rules text).spans 0) := by
  have wholeBody : Region.body ⟨0, text.length⟩ text = text := by
    rw [Region.body, List.drop_zero, Nat.sub_zero, List.take_length]
  have painted := paintRegion_eq_foldl_coat groups text ⟨0, text.length⟩
  rw [wholeBody, Region.before, List.take_zero, List.getLast?_nil] at painted
  exact classify_of_paintRegion text 0 none (Region.extend_whole text) painted

/-! ## Closed long strings -/

/-- The rest of a long string after its opening delimiter comes to a closing one. -/
def closesBody : Text → Bool
  | [] => false
  | '"' :: '"' :: '"' :: _ => true
  | '\\' :: c :: rest => c != '\n' && closesBody rest
  | ['\\'] => false
  | _ :: rest => closesBody rest

/-- Every long string that the pattern finds ends with a closing delimiter, and none only because
the text ends. -/
def LongStringsClosed (text : Text) : Prop :=
  ∀ m ∈ Pattern.longString.matchesIn none text, closesBody (text.drop (m.start + 3)) = true

instance (text : Text) : Decidable (LongStringsClosed text) :=
  inferInstanceAs (Decidable (∀ m ∈ Pattern.longString.matchesIn none text, _))

theorem three_le_length_of_closesBody {text : Text} (closes : closesBody text = true) :
    3 ≤ text.length := by
  induction text using closesBody.induct with
  | case1 => cases closes
  | case2 after => simp
  | case3 c rest ih =>
    rw [closesBody, Bool.and_eq_true] at closes
    have inRest := ih closes.2
    simp only [List.length_cons]
    omega
  | case4 => cases closes
  | case5 c rest noTriple noEscape noLast ih =>
    rw [closesBody.eq_5 _ _ noTriple noEscape noLast] at closes
    have inRest := ih closes
    simp only [List.length_cons]
    omega

/-- A body that is closed is read as far as before, whatever is added to the text. -/
theorem longStringBody_append_of_closesBody {text : Text} (closes : closesBody text = true)
    (rest : Text) : longStringBody (text ++ rest) = longStringBody text := by
  induction text using longStringBody.induct with
  | case1 => cases closes
  | case2 after => rfl
  | case3 after => rfl
  | case4 c after other ih =>
    rw [closesBody, Bool.and_eq_true] at closes
    rw [List.cons_append, List.cons_append, longStringBody, longStringBody, if_neg other,
      if_neg other, ih closes.2]
  | case5 => cases closes
  | case6 c after noTriple noEscape noLast ih =>
    rw [closesBody.eq_5 _ _ noTriple noEscape noLast] at closes
    have other := ne_backslash noEscape noLast
    have noTriple' : ∀ tail, c = '"' → after ++ rest = '"' :: '"' :: tail → False := by
      intro tail quote same
      have size := three_le_length_of_closesBody closes
      rcases after with _ | ⟨d, _ | ⟨e, after⟩⟩
      · simp at size
      · simp at size
      · simp only [List.cons_append, List.cons.injEq] at same
        exact noTriple after quote (by rw [same.1, same.2.1])
    rw [List.cons_append, longStringBody.eq_5 _ _ noTriple' (fun _ _ same => absurd same other)
      (fun same => absurd same other), longStringBody.eq_5 _ _ noTriple noEscape noLast, ih closes]

/-- A character that neither closes nor escapes is read by itself, also before a line feed. -/
theorem longStringBody_cons_append_newline {c : Char} {after : Text}
    (noTriple : ∀ tail, c = '"' → after = '"' :: '"' :: tail → False) (other : c ≠ '\\')
    (rest : Text) :
    longStringBody (c :: (after ++ '\n' :: rest)) =
      (longStringBody (after ++ '\n' :: rest)).map (· + 1) := by
  refine longStringBody.eq_5 _ _ (fun tail quote same => ?_) (fun _ _ same => absurd same other)
    (fun same => absurd same other)
  rcases after with _ | ⟨d, _ | ⟨e, after⟩⟩
  · simp at same
  · simp at same
  · simp only [List.cons_append, List.cons.injEq] at same
    exact noTriple after quote (by rw [same.1, same.2.1])

/-- A body that cannot be read cannot be read before a line feed either. -/
theorem longStringBody_append_newline_of_none {text : Text} (fails : longStringBody text = none)
    (rest : Text) : longStringBody (text ++ '\n' :: rest) = none := by
  induction text using longStringBody.induct with
  | case1 => cases fails
  | case2 after => cases fails
  | case3 after => rfl
  | case4 c after other ih =>
    rw [longStringBody, if_neg other, Option.map_eq_none_iff] at fails
    rw [List.cons_append, List.cons_append, longStringBody, if_neg other, ih fails]
    rfl
  | case5 => rfl
  | case6 c after noTriple noEscape noLast ih =>
    rw [longStringBody.eq_5 _ _ noTriple noEscape noLast, Option.map_eq_none_iff] at fails
    have other := ne_backslash noEscape noLast
    rw [List.cons_append, longStringBody_cons_append_newline noTriple other, ih fails]
    rfl

/-- A place before a line feed where a long string is found is one where the text alone has one. -/
theorem Pattern.exists_hit_longString_of_append_newline {before : Option Char} {text rest : Text}
    {hit : Hit} (found : Pattern.longString.hit before (text ++ '\n' :: rest) = some hit) :
    ∃ alone, Pattern.longString.hit before text = some alone := by
  obtain ⟨after, n, starts, body, -⟩ := hit_longString_iff.mp found
  rcases text with _ | ⟨a, _ | ⟨b, _ | ⟨c, tail⟩⟩⟩
  · simp at starts
  · simp at starts
  · simp at starts
  · simp only [List.cons_append, List.cons.injEq] at starts
    obtain ⟨rfl, rfl, rfl, rfl⟩ := starts
    cases alone : longStringBody tail with
    | none =>
      rw [longStringBody_append_newline_of_none alone] at body
      cases body
    | some k => exact ⟨_, hit_longString_iff.mpr ⟨tail, k, rfl, alone, rfl⟩⟩

/-- Where the first text closes its long strings, those of the joined text are those of the first
and then those of the second. -/
theorem matchesIn_longString_append_newline {text : Text} (closed : LongStringsClosed text)
    (rest : Text) :
    Pattern.longString.matchesIn none (text ++ '\n' :: rest) =
      Pattern.longString.matchesIn none text ++
        (Pattern.longString.matchesIn (some '\n') rest).map (Match.shift (text.length + 1)) := by
  have consumes := Pattern.consumes_longString
  have first := Pattern.isScan_matchesIn consumes none text
  have second := Pattern.isScan_matchesIn consumes (some '\n') rest
  have behind : ∀ pos, (text ++ '\n' :: rest).drop (text.length + 1 + pos) = rest.drop pos := by
    intro pos
    rw [Nat.add_assoc, ← List.drop_drop, List.drop_left, Nat.add_comm 1 pos, List.drop_succ_cons]
  refine (Pattern.isScan_matchesIn consumes none _).unique consumes ⟨?_, ?_, ?_⟩
  · intro m member
    rcases List.mem_append.mp member with inFirst | inSecond
    · obtain ⟨hit, here, placed⟩ := first.hits m inFirst
      have inside := Pattern.within_of_mem_matchesIn inFirst
      refine ⟨hit, ?_, placed⟩
      rw [List.drop_append_of_le_length (Nat.le_trans inside.ordered inside.stop_le)]
      obtain ⟨after, n, starts, body, rfl⟩ := Pattern.hit_longString_iff.mp here
      have closes : closesBody after = true := by
        have inText := closed m inFirst
        rwa [← List.drop_drop, starts] at inText
      refine Pattern.hit_longString_iff.mpr ⟨after ++ '\n' :: rest, n, ?_, ?_, rfl⟩
      · rw [starts]
        rfl
      · rw [longStringBody_append_of_closesBody closes, body]
    · obtain ⟨m, inRest, rfl⟩ := List.mem_map.mp inSecond
      obtain ⟨hit, here, placed⟩ := second.hits m inRest
      refine ⟨hit, ?_, ?_⟩
      · rw [Match.shift, behind]
        exact here
      · nth_rewrite 1 [placed]
        exact Hit.shift_place hit _ _
  · rw [List.pairwise_append, List.pairwise_map]
    refine ⟨first.ordered, second.ordered.imp fun apart => Nat.add_le_add_left apart _, ?_⟩
    intro a inFirst b inSecond
    obtain ⟨b, -, rfl⟩ := List.mem_map.mp inSecond
    have inside := (Pattern.within_of_mem_matchesIn inFirst).stop_le
    simp only [Match.shift]
    omega
  · intro pos hit here
    by_cases near : pos ≤ text.length
    · rw [List.drop_append_of_le_length near] at here
      obtain ⟨alone, found⟩ := Pattern.exists_hit_longString_of_append_newline here
      obtain ⟨m, inFirst, low, high⟩ := first.covers pos alone found
      exact ⟨m, List.mem_append_left _ inFirst, low, high⟩
    · obtain ⟨far, rfl⟩ : ∃ far, pos = text.length + 1 + far := ⟨pos - text.length - 1, by omega⟩
      rw [behind] at here
      obtain ⟨m, inRest, low, high⟩ := second.covers far hit here
      refine ⟨_, List.mem_append_right _ (List.mem_map_of_mem inRest), ?_, ?_⟩
      · exact Nat.add_le_add_left low _
      · exact Nat.add_lt_add_left high _

/-! ## Coats of a joined text -/

section Coats

variable {first second : Text} (closed : LongStringsClosed first)
  (declared : ¬ EndsInOpenDeclaration first)

include closed declared

/-- A rule for long strings, or for a pattern bound to its line, paints two joined texts each for
itself. -/
theorem Rule.coat_join {rule : Rule}
    (bound : rule.pattern = .longString ∨ rule.pattern.lineBound = true) {left : Canvas}
    (size : left.length = first.length) (cell : Option Style) (right : Canvas) :
    rule.coat none (first ++ '\n' :: second) (left ++ cell :: right) =
      rule.coat none first left ++ cell :: rule.coat none second right := by
  rw [← rule.coat_after_blank (show isBlank '\n' = true by decide) second]
  rcases bound with strings | lineBound
  · refine Rule.coat_append_cut ?_ size cell right
    rw [strings]
    exact matchesIn_longString_append_newline closed second
  · exact Rule.coat_append_newline lineBound declared second none size cell right

/-- The canvas of two joined texts is the canvas of each, with an unpainted character between. -/
theorem coats_join {rules : List Rule}
    (bound : ∀ rule ∈ rules, rule.pattern = .longString ∨ rule.pattern.lineBound = true) :
    coats rules (first ++ '\n' :: second) =
      coats rules first ++ none :: coats rules second := by
  have empty : Canvas.empty (first ++ '\n' :: second).length =
      Canvas.empty first.length ++ none :: Canvas.empty second.length := by
    rw [List.length_append, List.length_cons, Canvas.empty_add]
    rfl
  have each : ∀ rule ∈ rules, ∀ (left : Canvas) (cell : Option Style) (right : Canvas),
      left.length = first.length →
      rule.coat none (first ++ '\n' :: second) (left ++ cell :: right) =
        rule.coat none first left ++ cell :: rule.coat none second right :=
    fun rule member left cell right size =>
      Rule.coat_join closed declared (bound rule member) size cell right
  rw [coats, empty, foldl_coat_append_cut each (Canvas.length_empty _)]
  rfl

end Coats

theorem lineBound_standardRules : ∀ rule ∈ standardRules,
    rule.pattern = .longString ∨ rule.pattern.lineBound = true := by decide

/-- If the first text closes its long strings and leaves no declaration open, the spans of two texts
joined by a line feed are those of the first and then those of the second, moved behind the line
feed. -/
theorem classify_append_newline (first second : Text) (closed : LongStringsClosed first)
    (declared : ¬ EndsInOpenDeclaration first) :
    ∃ spans others, classify standardRules first 0 none = .ok spans ∧
      classify standardRules second 0 none = .ok others ∧
      classify standardRules (first ++ '\n' :: second) 0 none =
        .ok (spans ++ others.map (Span.shift (first.length + 1))) := by
  have size : (coats standardRules first).length = first.length := by
    rw [coats, length_foldl_coat, Canvas.length_empty]
  refine ⟨_, _, classify_whole groupExists_standardRules first,
    classify_whole groupExists_standardRules second, ?_⟩
  rw [classify_whole groupExists_standardRules, coats_join closed declared lineBound_standardRules,
    Canvas.spans_append_none, size, ← Canvas.spans_add]
  congr 3
  omega

/-- In the first text an attempt at a long string fails at a backslash before a line feed; the
second one opens a long string and leaves it open. -/
theorem classify_append_newline_open :
    let first := "a:b \"\"\"c\"\"\" \"\"\"d\\\n<e> \"f\"".toList
    let second := "@en \"\"\"g\nh".toList
    (classify standardRules (first ++ '\n' :: second) 0 none).toOption =
        some [⟨0, 3, .prefixedName⟩, ⟨4, 11, .string⟩, ⟨12, 14, .string⟩, ⟨18, 21, .iri⟩,
          ⟨22, 25, .string⟩, ⟨30, 36, .string⟩] ∧
      ∃ spans others, classify standardRules first 0 none = .ok spans ∧
        classify standardRules second 0 none = .ok others ∧
        classify standardRules (first ++ '\n' :: second) 0 none =
          .ok (spans ++ others.map (Span.shift (first.length + 1))) := by
  intro first second
  refine ⟨by decide +kernel, ?_⟩
  exact classify_append_newline first second (by decide +kernel) (by decide +kernel)

end TurtleEdit
