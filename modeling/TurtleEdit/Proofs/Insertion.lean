import TurtleEdit.Proofs.Joining
import TurtleEdit.Proofs.Shapes

/-!
A space or a tab put in at the start of a line moves the matches of a text.

A match that lies before the new character stays, one that lies behind it moves by one, and one that
reaches over the start of the line grows by one; no match is lost and none is won. For this a match
must not begin with a blank. Then the scan passes over the new character, unless it is inside a
match, and only two patterns are inside one at the start of a line: a long string, which reads
blanks as any other character, and a declaration left open at the end of a line, which reads on to
the first character that is no blank.
-/

namespace TurtleEdit

/-! ## Moving offsets -/

/-- Where an offset comes to lie when a character is put in at `cut`. -/
def moved (cut pos : Nat) : Nat := if pos < cut then pos else pos + 1

theorem moved_of_lt {cut pos : Nat} (before : pos < cut) : moved cut pos = pos := if_pos before

theorem moved_of_le {cut pos : Nat} (behind : cut ≤ pos) : moved cut pos = pos + 1 :=
  if_neg (Nat.not_lt.mpr behind)

theorem moved_add (cut pos offset : Nat) :
    moved (cut + offset) (pos + offset) = moved cut pos + offset := by
  unfold moved
  split <;> split <;> omega

/-- A match found at a place when a character is put in `cut` characters behind the place. -/
def Hit.moved (cut : Nat) (hit : Hit) : Hit :=
  ⟨TurtleEdit.moved cut hit.length,
    hit.group.map fun part => (TurtleEdit.moved cut part.1, TurtleEdit.moved cut part.2)⟩

/-- A match when a character is put in at `cut`. -/
def Match.moved (cut : Nat) (found : Match) : Match :=
  ⟨TurtleEdit.moved cut found.start, TurtleEdit.moved cut found.stop,
    found.group.map fun part => (TurtleEdit.moved cut part.1, TurtleEdit.moved cut part.2)⟩

/-- A match that ends before the new character stays as it is. -/
theorem Hit.moved_of_within {cut size : Nat} {hit : Hit} (inside : hit.Within size)
    (before : size < cut) : hit.moved cut = hit := by
  have length : TurtleEdit.moved cut hit.length = hit.length :=
    moved_of_lt (Nat.lt_of_le_of_lt inside.length_le before)
  rcases hit with ⟨size', group⟩
  cases group with
  | none => simp only [Hit.moved, length, Option.map_none]
  | some part =>
    have bounds := inside.group_le part rfl
    have bound := inside.length_le
    simp only [Hit.moved, length, Option.map_some, Hit.mk.injEq, Option.some.injEq, true_and]
    rw [moved_of_lt (by omega), moved_of_lt (by omega)]

theorem Hit.place_moved {cut : Nat} (positive : 0 < cut) (hit : Hit) (pos : Nat) :
    (hit.moved cut).place pos = (hit.place pos).moved (pos + cut) := by
  have further : ∀ n, pos + TurtleEdit.moved cut n = TurtleEdit.moved (pos + cut) (pos + n) := by
    intro n
    rw [Nat.add_comm pos cut, Nat.add_comm pos n, moved_add, Nat.add_comm]
  simp only [Hit.place, Hit.moved, Match.moved, Option.map_map, Function.comp_def, further,
    moved_of_lt (show pos < pos + cut by omega)]

/-- Matches behind the new character are shifted. -/
theorem Match.shift_eq_moved {cut : Nat} {found : Match} (start : cut ≤ found.start)
    (stop : cut ≤ found.stop)
    (group : ∀ part, found.group = some part → cut ≤ part.1 ∧ cut ≤ part.2) :
    found.shift 1 = found.moved cut := by
  rcases found with ⟨first, last, part⟩
  simp only [Match.shift, Match.moved, moved_of_le start, moved_of_le stop, Nat.add_comm 1,
    Match.mk.injEq, true_and]
  cases part with
  | none => rfl
  | some part =>
    have behind := group part rfl
    simp only [Option.map_some, moved_of_le behind.1, moved_of_le behind.2]

/-! ## Matches at a place -/

/-- Patterns whose matches begin with a character that is no blank. -/
def Pattern.solid : Pattern → Bool
  | longString | string | comment => true
  | pattern => pattern.wordBound

theorem Pattern.lineBound_of_solid {pattern : Pattern} (solid : pattern.solid = true) :
    pattern = .longString ∨ pattern.lineBound = true := by
  unfold Pattern.solid at solid
  split at solid
  · exact Or.inl rfl
  · exact Or.inr rfl
  · exact Or.inr rfl
  · exact Or.inr (lineBound_of_wordBound solid)

theorem Pattern.hit_blank_cons {pattern : Pattern} (solid : pattern.solid = true)
    (before : Option Char) {b : Char} (blank : isBlank b = true) (rest : Text) :
    pattern.hit before (b :: rest) = none := by
  have quote : b ≠ '"' := ne_of_isBlank blank (by decide)
  have sharp : b ≠ '#' := ne_of_isBlank blank (by decide)
  unfold Pattern.solid at solid
  split at solid
  · simp [hit, startsWith, Ne.symm quote]
  · simp [hit, quote]
  · simp [hit, startsWith, Ne.symm sharp]
  · have notOpen : ¬ OpenDeclaration [] := by decide
    have ends := hit_append_blank solid before blank (fun _ => notOpen) rest
    rwa [List.nil_append, hit_nil (lineBound_of_wordBound solid)] at ends

theorem drop_runLength (inClass : Char → Bool) (text : Text) :
    text.drop (runLength inClass text) = text.dropWhile inClass := by
  have split : text.takeWhile inClass ++ text.dropWhile inClass = text :=
    List.takeWhile_append_dropWhile
  calc text.drop (runLength inClass text)
      = (text.takeWhile inClass ++ text.dropWhile inClass).drop (runLength inClass text) := by
        rw [split]
    _ = text.dropWhile inClass := List.drop_left

/-- A declaration left open at the end of a line is read on from the first character that is no
blank. -/
theorem Pattern.hit_declaredNamespace_of_open {blanks : Text}
    (allBlank : blanks.all isBlank = true) (before : Option Char) (rest : Text) :
    Pattern.declaredNamespace.hit before ("@prefix".toList ++ blanks ++ '\n' :: rest) =
      (namespaceLength (rest.dropWhile isBlank)).map fun n =>
        .after (("@prefix".toList ++ blanks).length + 1 + runLength isBlank rest) n := by
  have starts : startsWith "@prefix" ("@prefix".toList ++ blanks ++ '\n' :: rest) = true := by
    rw [List.append_assoc]
    exact startsWith_iff.mpr (List.prefix_append _ _)
  have word : ("@prefix".toList ++ blanks ++ '\n' :: rest).drop 7 = blanks ++ '\n' :: rest := rfl
  have feed : isBlank '\n' = true := by decide
  have run : runLength isBlank (blanks ++ '\n' :: rest) =
      blanks.length + 1 + runLength isBlank rest := by
    rw [runLength, List.takeWhile_append_of_pos (List.all_eq_true.mp allBlank),
      List.takeWhile_cons_of_pos feed, List.length_append, List.length_cons, runLength]
    omega
  have after : (blanks ++ '\n' :: rest).drop (blanks.length + 1 + runLength isBlank rest) =
      rest.dropWhile isBlank := by
    rw [Nat.add_assoc, ← List.drop_drop, List.drop_left, Nat.add_comm, List.drop_succ_cons,
      drop_runLength]
  have length : ("@prefix".toList ++ blanks).length = 7 + blanks.length := by
    rw [List.length_append]
    rfl
  simp only [hit]
  rw [if_pos starts, word, run, if_neg (by omega), ← List.drop_drop, word, after, length]
  simp only [Nat.add_assoc]

/-- A body that reaches over the start of a line grows by the character put in there. -/
theorem longStringBody_insert (text : Text) {b : Char} (indents : isIndent b = true)
    (rest : Text) :
    longStringBody (text ++ '\n' :: b :: rest) =
      (longStringBody (text ++ '\n' :: rest)).map (moved (text.length + 1)) := by
  have blank := isBlank_of_isIndent indents
  induction text using longStringBody.induct with
  | case1 =>
    have quote : b ≠ '"' := ne_of_isBlank blank (by decide)
    have backslash : b ≠ '\\' := ne_of_isBlank blank (by decide)
    rw [List.nil_append, List.nil_append, longStringBody.eq_5 '\n' _ (by simp) (by simp) (by simp),
      longStringBody.eq_5 b _ (by simp [quote]) (by simp [backslash]) (by simp [backslash]),
      longStringBody.eq_5 '\n' _ (by simp) (by simp) (by simp), Option.map_map, Option.map_map]
    congr 1
  | case2 after =>
    simp only [List.cons_append, longStringBody, Option.map_some, List.length_cons]
    rw [moved_of_lt (by omega)]
  | case3 after => simp [longStringBody]
  | case4 c after other ih =>
    simp only [List.cons_append, longStringBody, if_neg other, ih, Option.map_map, List.length_cons]
    congr 1
    funext n
    exact (moved_add (after.length + 1) n 2).symm
  | case5 => simp [longStringBody]
  | case6 c after noTriple noEscape noLast ih =>
    have other := ne_backslash noEscape noLast
    simp only [List.cons_append, longStringBody_cons_append_newline noTriple other, ih,
      Option.map_map, List.length_cons]
    congr 1
    funext n
    exact (moved_add (after.length + 1) n 1).symm

/-- A match that begins before a line feed keeps its place when a space or a tab is put in behind
the line feed, and what of it lies behind it moves. -/
theorem Pattern.hit_insert {pattern : Pattern} (solid : pattern.solid = true)
    (before : Option Char) (text : Text) {b : Char} (indents : isIndent b = true) (rest : Text) :
    pattern.hit before (text ++ '\n' :: b :: rest) =
      (pattern.hit before (text ++ '\n' :: rest)).map (Hit.moved (text.length + 1)) := by
  rcases lineBound_of_solid solid with rfl | bound
  · simp only [hit]
    rw [startsWith_append_cut (by decide), startsWith_append_cut (by decide)]
    cases starts : startsWith "\"\"\"" text with
    | false => rfl
    | true =>
      obtain ⟨tail, rfl⟩ := startsWith_iff.mp starts
      have body := longStringBody_insert tail indents rest
      rw [if_pos rfl, if_pos rfl, Option.map_map]
      refine (congrArg (Option.map _) body).trans ?_
      rw [Option.map_map]
      congr 1
      funext n
      have cut : ("\"\"\"".toList ++ tail).length + 1 = tail.length + 1 + 3 := by
        rw [List.length_append]
        exact Nat.add_comm 3 (tail.length + 1)
      simp only [Function.comp, Hit.whole, Hit.moved, cut, moved_add, Option.map_none]
  by_cases isOpen : pattern = .declaredNamespace ∧ OpenDeclaration text
  · obtain ⟨rfl, blanks, allBlank, rfl⟩ := isOpen
    have blank := isBlank_of_isIndent indents
    have run : runLength isBlank (b :: rest) = runLength isBlank rest + 1 := by
      rw [runLength, List.takeWhile_cons_of_pos blank, List.length_cons, runLength]
    rw [hit_declaredNamespace_of_open allBlank, hit_declaredNamespace_of_open allBlank,
      List.dropWhile_cons_of_pos blank, run, Option.map_map]
    congr 1
    funext n
    generalize ("@prefix".toList ++ blanks).length + 1 = cut
    simp only [Function.comp, Hit.after, Hit.moved, Option.map_some]
    rw [moved_of_le (by omega), moved_of_le (by omega)]
    simp only [Hit.mk.injEq, Option.some.injEq, Prod.mk.injEq]
    omega
  · have closed : pattern = .declaredNamespace → ¬ OpenDeclaration text :=
      fun declares opens => isOpen ⟨declares, opens⟩
    rw [hit_append_newline bound before closed, hit_append_newline bound before closed]
    cases found : pattern.hit before text with
    | none => rfl
    | some hit =>
      rw [Option.map_some, Hit.moved_of_within (hit_within found) (Nat.lt_succ_self _)]

/-! ## Scans -/

namespace Pattern

/-- After a blank a scan goes on as after any other one, also inside a match. -/
theorem matchesFrom_after_blank (pattern : Pattern) {b d : Char} (blank : isBlank b = true)
    (other : isBlank d = true) (pos skip : Nat) (text : Text) :
    pattern.matchesFrom pos skip (some b) text = pattern.matchesFrom pos skip (some d) text := by
  have same : ∀ text, pattern.hit (some b) text = pattern.hit (some d) text := fun text => by
    rw [hit_after_blank pattern blank, hit_after_blank pattern other]
  cases text with
  | nil => rw [matchesFrom, matchesFrom, same]
  | cons c rest =>
    cases skip with
    | zero => rw [matchesFrom, matchesFrom, same]
    | succ skip => rw [matchesFrom, matchesFrom]

/-- A scan passes over a blank. -/
theorem matchesFrom_blank_cons {pattern : Pattern} (solid : pattern.solid = true) {b : Char}
    (blank : isBlank b = true) (pos : Nat) (before : Option Char) (rest : Text) :
    pattern.matchesFrom pos 0 before (b :: rest) =
      pattern.matchesFrom (pos + 1) 0 (some b) rest := by
  rw [matchesFrom, hit_blank_cons solid before blank]

/-- A scan that starts one character later finds its matches one character later. -/
theorem matchesFrom_succ (pattern : Pattern) (pos skip : Nat) (before : Option Char)
    (text : Text) :
    pattern.matchesFrom (pos + 1) skip before text =
      (pattern.matchesFrom pos skip before text).map (Match.moved pos) := by
  rw [Nat.add_comm, matchesFrom_add]
  refine List.map_congr_left fun m member => ?_
  obtain ⟨k, hit, -, rfl, -⟩ := hit_of_mem_matchesFrom member
  refine Match.shift_eq_moved (Nat.le_add_right _ _) ?_ fun part took => ?_
  · simp only [Hit.place]
    omega
  · obtain ⟨old, -, rfl⟩ := Option.map_eq_some_iff.mp took
    dsimp only
    omega

/-- A space or a tab at the start of a line moves the matches of a scan. -/
theorem matchesFrom_insert {pattern : Pattern} (solid : pattern.solid = true) (text : Text)
    {b : Char} (indents : isIndent b = true) (rest : Text) (pos skip : Nat)
    (before : Option Char) :
    pattern.matchesFrom pos (moved (text.length + 1) skip) before (text ++ '\n' :: b :: rest) =
      (pattern.matchesFrom pos skip before (text ++ '\n' :: rest)).map
        (Match.moved (pos + text.length + 1)) := by
  have feed : isBlank '\n' = true := by decide
  have blank := isBlank_of_isIndent indents
  induction text generalizing pos skip before with
  | nil =>
    have later : ∀ skip, pattern.matchesFrom (pos + 1 + 1) skip (some b) rest =
        (pattern.matchesFrom (pos + 1) skip (some '\n') rest).map (Match.moved (pos + 1)) := by
      intro skip
      rw [matchesFrom_succ, matchesFrom_after_blank pattern blank feed]
    rw [List.nil_append, List.nil_append]
    cases skip with
    | zero =>
      rw [moved_of_lt (Nat.succ_pos _), matchesFrom_blank_cons solid feed,
        matchesFrom_blank_cons solid blank, matchesFrom_blank_cons solid feed]
      exact later 0
    | succ skip =>
      have grown : moved (([] : Text).length + 1) (skip + 1) = skip + 2 :=
        moved_of_le (Nat.le_add_left _ _)
      rw [grown, matchesFrom, matchesFrom, matchesFrom]
      exact later skip
  | cons c tail ih =>
    have cut : pos + (c :: tail).length + 1 = pos + 1 + tail.length + 1 := by
      rw [List.length_cons]
      omega
    rw [List.cons_append, List.cons_append, cut]
    cases skip with
    | succ skip =>
      rw [List.length_cons, moved_add, matchesFrom, matchesFrom]
      exact ih (pos + 1) skip (some c)
    | zero =>
      have here := hit_insert solid before (c :: tail) indents rest
      rw [List.cons_append, List.cons_append] at here
      rw [moved_of_lt (Nat.succ_pos _), matchesFrom, matchesFrom, here]
      cases pattern.hit before (c :: (tail ++ '\n' :: rest)) with
      | none =>
        have nothing := ih (pos + 1) 0 (some c)
        rwa [moved_of_lt (Nat.succ_pos _)] at nothing
      | some hit =>
        have skipped : (hit.moved ((c :: tail).length + 1)).length - 1 =
            moved (tail.length + 1) (hit.length - 1) := by
          simp only [Hit.moved, moved, List.length_cons]
          split <;> split <;> omega
        have size : pos + ((c :: tail).length + 1) = pos + 1 + tail.length + 1 := cut
        simp only [Option.map_some, List.map_cons]
        rw [Hit.place_moved (Nat.succ_pos _), size, skipped, ih]

end Pattern

/-- The end of the text is the start of a line. -/
def LineFront (front : Text) : Prop := front = [] ∨ ∃ text, front = text ++ ['\n']

/-- A space or a tab at the start of a line moves the matches behind it. -/
theorem Pattern.matchesIn_insert {pattern : Pattern} (solid : pattern.solid = true)
    {front : Text} (line : LineFront front) {b : Char} (indents : isIndent b = true)
    (rest : Text) :
    pattern.matchesIn none (front ++ b :: rest) =
      (pattern.matchesIn none (front ++ rest)).map (Match.moved front.length) := by
  have blank := isBlank_of_isIndent indents
  unfold matchesIn
  rcases line with rfl | ⟨text, rfl⟩
  · rw [List.nil_append, matchesFrom_blank_cons solid blank]
    refine (matchesFrom_succ pattern 0 0 (some b) rest).trans ?_
    exact congrArg _ (matchesIn_after_blank pattern blank rest)
  · have inserted := matchesFrom_insert solid text indents rest 0 0 none
    rw [moved_of_lt (Nat.succ_pos _), Nat.zero_add] at inserted
    simpa using inserted

end TurtleEdit
