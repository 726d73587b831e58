import Mathlib.Data.List.Pairwise
import Mathlib.Data.List.Sort
import TurtleEdit.Proofs.LineBound

/-!
Lists of matches found from left to right.

Matches lie in the scanned text, in order and without overlap. For a pattern that never matches the
empty text more can be said: every place where it matches is inside a match that was found. These
facts determine the list, so a list that has them is the one a scan finds.

A scan is cut at a line feed, or at a blank, if that ends the pattern: what it finds before the cut
and after it are the matches of the two texts.
-/

namespace TurtleEdit

/-! ## Moving matches -/

/-- A match moved to the right. -/
def Match.shift (offset : Nat) (found : Match) : Match :=
  ⟨offset + found.start, offset + found.stop,
    found.group.map fun part => (offset + part.1, offset + part.2)⟩

/-- A match, and the part its group took, lie in the first `size` characters. -/
structure Match.Within (size : Nat) (found : Match) : Prop where
  ordered : found.start ≤ found.stop
  stop_le : found.stop ≤ size
  group_le : ∀ part, found.group = some part → part.1 ≤ part.2 ∧ part.2 ≤ size

theorem Match.Within.mono {size larger : Nat} {found : Match} (inside : found.Within size)
    (grows : size ≤ larger) : found.Within larger where
  ordered := inside.ordered
  stop_le := Nat.le_trans inside.stop_le grows
  group_le part took :=
    ⟨(inside.group_le part took).1, Nat.le_trans (inside.group_le part took).2 grows⟩

theorem Hit.Within.place {size : Nat} {hit : Hit} (inside : hit.Within size) (pos : Nat) :
    (hit.place pos).Within (pos + size) where
  ordered := Nat.le_add_right _ _
  stop_le := Nat.add_le_add_left inside.length_le _
  group_le part took := by
    obtain ⟨old, oldTook, rfl⟩ := Option.map_eq_some_iff.mp took
    have bounds := inside.group_le old oldTook
    have bound := inside.length_le
    dsimp only
    omega

theorem Hit.shift_place (hit : Hit) (offset pos : Nat) :
    (hit.place pos).shift offset = hit.place (offset + pos) := by
  simp [Match.shift, Hit.place, Nat.add_assoc, Function.comp_def]

namespace Pattern

/-! ## What a scan finds -/

/-- The character before an offset of a text that follows the character `before`. -/
def charBefore (before : Option Char) (text : Text) (pos : Nat) : Option Char :=
  (text.take pos).getLast?.or before

theorem charBefore_zero (before : Option Char) (text : Text) :
    charBefore before text 0 = before := rfl

theorem charBefore_succ (before : Option Char) (c : Char) (rest : Text) (pos : Nat) :
    charBefore before (c :: rest) (pos + 1) = charBefore (some c) rest pos := by
  unfold charBefore
  rw [List.take_succ_cons, List.getLast?_cons]
  cases (rest.take pos).getLast? <;> rfl

/-- A found match is the match of its place. -/
theorem hit_of_mem_matchesFrom {pattern : Pattern} {pos skip : Nat} {before : Option Char}
    {text : Text} {found : Match} (member : found ∈ pattern.matchesFrom pos skip before text) :
    ∃ k hit, pattern.hit (charBefore before text k) (text.drop k) = some hit ∧
      found = hit.place (pos + k) ∧ k ≤ text.length := by
  induction text generalizing pos skip before with
  | nil =>
    rw [matchesFrom] at member
    split at member
    · next hit here =>
      obtain rfl := List.mem_singleton.mp member
      exact ⟨0, hit, here, rfl, Nat.le_refl _⟩
    · cases member
  | cons c rest ih =>
    have later : ∀ {skip}, found ∈ pattern.matchesFrom (pos + 1) skip (some c) rest →
        ∃ k hit, pattern.hit (charBefore before (c :: rest) k) ((c :: rest).drop k) = some hit ∧
          found = hit.place (pos + k) ∧ k ≤ (c :: rest).length := by
      intro skip inRest
      obtain ⟨k, hit, here, rfl, bound⟩ := ih inRest
      refine ⟨k + 1, hit, ?_, by rw [Nat.add_assoc, Nat.add_comm 1 k], Nat.succ_le_succ bound⟩
      rw [charBefore_succ]
      exact here
    cases skip with
    | succ skip => exact later member
    | zero =>
      rw [matchesFrom] at member
      split at member
      · next hit here =>
        rcases List.mem_cons.mp member with rfl | inRest
        · exact ⟨0, hit, here, rfl, Nat.zero_le _⟩
        · exact later inRest
      · exact later member

/-- A found match lies in the scanned text. -/
theorem within_of_mem_matchesFrom {pattern : Pattern} {pos skip : Nat} {before : Option Char}
    {text : Text} {found : Match} (member : found ∈ pattern.matchesFrom pos skip before text) :
    pos ≤ found.start ∧ found.Within (pos + text.length) := by
  obtain ⟨k, hit, here, rfl, bound⟩ := hit_of_mem_matchesFrom member
  refine ⟨Nat.le_add_right _ _, ((hit_within here).place (pos + k)).mono ?_⟩
  rw [List.length_drop]
  omega

theorem within_of_mem_matchesIn {pattern : Pattern} {before : Option Char} {text : Text}
    {found : Match} (member : found ∈ pattern.matchesIn before text) :
    found.Within text.length := by
  have inside := (within_of_mem_matchesFrom member).2
  rwa [Nat.zero_add] at inside

/-- Characters of a match already found start no other one. -/
theorem skip_le_of_mem_matchesFrom {pattern : Pattern} {pos skip : Nat} {before : Option Char}
    {text : Text} {found : Match} (short : skip ≤ text.length)
    (member : found ∈ pattern.matchesFrom pos skip before text) : pos + skip ≤ found.start := by
  induction text generalizing pos skip before with
  | nil =>
    obtain rfl := Nat.le_zero.mp short
    exact (within_of_mem_matchesFrom member).1
  | cons c rest ih =>
    cases skip with
    | zero => exact (within_of_mem_matchesFrom member).1
    | succ skip =>
      have later : pos + 1 + skip ≤ found.start := ih (Nat.le_of_succ_le_succ short) member
      omega

/-- The match at a place leaves at least its length less one to skip. -/
theorem length_sub_one_le {pattern : Pattern} {before : Option Char} {c : Char} {rest : Text}
    {hit : Hit} (here : pattern.hit before (c :: rest) = some hit) :
    hit.length - 1 ≤ rest.length := by
  have bound := (hit_within here).length_le
  rw [List.length_cons] at bound
  omega

/-- Matches are found in order and do not overlap. -/
theorem matchesFrom_pairwise (pattern : Pattern) (pos skip : Nat) (before : Option Char)
    (text : Text) :
    (pattern.matchesFrom pos skip before text).Pairwise fun a b => a.stop ≤ b.start := by
  induction text generalizing pos skip before with
  | nil =>
    rw [matchesFrom]
    split
    · exact List.pairwise_singleton _ _
    · exact List.Pairwise.nil
  | cons c rest ih =>
    cases skip with
    | succ skip => exact ih (pos + 1) skip (some c)
    | zero =>
      rw [matchesFrom]
      split
      · next hit here =>
        refine List.pairwise_cons.mpr ⟨fun later member => ?_, ih _ _ _⟩
        have starts := skip_le_of_mem_matchesFrom (length_sub_one_le here) member
        have stops : (hit.place pos).stop = pos + hit.length := rfl
        omega
      · exact ih (pos + 1) 0 (some c)

/-! ## Scans -/

/-- The pattern never matches the empty text. -/
def Consumes (pattern : Pattern) : Prop :=
  ∀ before text hit, pattern.hit before text = some hit → 0 < hit.length

/-- Every place where a pattern matches is inside a found match. -/
theorem exists_of_hit {pattern : Pattern} (consumes : pattern.Consumes) (pos : Nat)
    {skip k : Nat} {before : Option Char} {text : Text} {hit : Hit} (after : skip ≤ k)
    (here : pattern.hit (charBefore before text k) (text.drop k) = some hit) :
    ∃ found ∈ pattern.matchesFrom pos skip before text,
      found.start ≤ pos + k ∧ pos + k < found.stop := by
  induction text generalizing pos skip before k with
  | nil =>
    have length := consumes _ _ _ here
    have bound := (hit_within here).length_le
    simp only [List.drop_nil, List.length_nil] at bound
    omega
  | cons c rest ih =>
    have later : ∀ skip, 0 < k → skip + 1 ≤ k →
        ∃ found ∈ pattern.matchesFrom (pos + 1) skip (some c) rest,
          found.start ≤ pos + k ∧ pos + k < found.stop := by
      intro skip positive further
      obtain ⟨j, rfl⟩ : ∃ j, k = j + 1 := ⟨k - 1, by omega⟩
      rw [charBefore_succ, List.drop_succ_cons] at here
      obtain ⟨found, member, low, high⟩ :=
        ih (pos + 1) (Nat.le_of_succ_le_succ further) here
      exact ⟨found, member, by omega, by omega⟩
    cases skip with
    | succ skip => exact later skip (by omega) after
    | zero =>
      rw [matchesFrom]
      split
      · next first starts =>
        have length := consumes _ _ _ starts
        by_cases inside : k < first.length
        · exact ⟨first.place pos, List.mem_cons_self, Nat.le_add_right _ _,
            Nat.add_lt_add_left inside pos⟩
        · obtain ⟨found, member, covers⟩ := later (first.length - 1) (by omega) (by omega)
          exact ⟨found, List.mem_cons_of_mem _ member, covers⟩
      · next nothing =>
        refine later 0 (Nat.pos_of_ne_zero ?_) ?_
        · rintro rfl
          rw [charBefore_zero, List.drop_zero, nothing] at here
          cases here
        · refine Nat.succ_le_of_lt (Nat.pos_of_ne_zero ?_)
          rintro rfl
          rw [charBefore_zero, List.drop_zero, nothing] at here
          cases here

/-- What a scan of a text finds: matches in order, and none missed. -/
structure IsScan (pattern : Pattern) (before : Option Char) (text : Text)
    (found : List Match) : Prop where
  hits : ∀ m ∈ found, ∃ hit,
    pattern.hit (charBefore before text m.start) (text.drop m.start) = some hit ∧
      m = hit.place m.start
  ordered : found.Pairwise fun a b => a.stop ≤ b.start
  covers : ∀ pos hit, pattern.hit (charBefore before text pos) (text.drop pos) = some hit →
    ∃ m ∈ found, m.start ≤ pos ∧ pos < m.stop

theorem isScan_matchesIn {pattern : Pattern} (consumes : pattern.Consumes)
    (before : Option Char) (text : Text) :
    pattern.IsScan before text (pattern.matchesIn before text) where
  hits m member := by
    obtain ⟨k, hit, here, rfl, -⟩ := hit_of_mem_matchesFrom member
    rw [Nat.zero_add]
    exact ⟨hit, here, rfl⟩
  ordered := matchesFrom_pairwise _ _ _ _ _
  covers pos hit here := by
    obtain ⟨m, member, low, high⟩ := exists_of_hit consumes 0 (Nat.zero_le pos) here
    rw [Nat.zero_add] at low high
    exact ⟨m, member, low, high⟩

namespace IsScan

variable {pattern : Pattern} {before : Option Char} {text : Text} {found other : List Match}

/-- Of two different matches of a scan one stops before the other starts. -/
theorem apart (scan : pattern.IsScan before text found) {a b : Match} (inA : a ∈ found)
    (inB : b ∈ found) : a = b ∨ a.stop ≤ b.start ∨ b.stop ≤ a.start := by
  have symmetric : Std.Symm fun x y : Match => x.stop ≤ y.start ∨ y.stop ≤ x.start :=
    ⟨fun _ _ => Or.symm⟩
  have eitherWay : found.Pairwise fun x y => x.stop ≤ y.start ∨ y.stop ≤ x.start :=
    scan.ordered.imp Or.inl
  exact or_iff_not_imp_left.mpr (eitherWay.forall inA inB)

/-- The matches of two scans of a text that start at the same offset are the same. -/
theorem eq_of_start_eq (scan : pattern.IsScan before text found)
    (again : pattern.IsScan before text other) {a b : Match} (inA : a ∈ found) (inB : b ∈ other)
    (same : a.start = b.start) : a = b := by
  obtain ⟨hit, here, placed⟩ := scan.hits a inA
  obtain ⟨hit', here', placed'⟩ := again.hits b inB
  rw [same, here'] at here
  cases here
  rw [placed, placed', same]

theorem start_lt_stop (scan : pattern.IsScan before text found) (consumes : pattern.Consumes)
    {m : Match} (member : m ∈ found) : m.start < m.stop := by
  obtain ⟨hit, here, placed⟩ := scan.hits m member
  have length := consumes _ _ _ here
  have stops : m.stop = m.start + hit.length := congrArg Match.stop placed
  omega

/-- What one scan of a text finds another finds too. -/
theorem subset (scan : pattern.IsScan before text found) (consumes : pattern.Consumes)
    (again : pattern.IsScan before text other) {m : Match} (member : m ∈ found) : m ∈ other := by
  -- by induction on the start: a match of the other scan that covers it and starts earlier would
  -- be covered by a match found still earlier, which both scans have
  induction start : m.start using Nat.strong_induction_on generalizing m with
  | _ start ih =>
    obtain ⟨hit, here, -⟩ := scan.hits m member
    obtain ⟨cover, inOther, low, high⟩ := again.covers _ _ here
    rcases Nat.eq_or_lt_of_le low with same | earlier
    · rw [scan.eq_of_start_eq again member inOther same.symm]
      exact inOther
    · obtain ⟨hit', here', -⟩ := again.hits cover inOther
      obtain ⟨first, inFound, low', high'⟩ := scan.covers _ _ here'
      have shared := ih first.start (by omega) inFound rfl
      rcases again.apart shared inOther with rfl | before | after
      · rcases scan.apart inFound member with rfl | before | after
        · exact inOther
        · omega
        · have := scan.start_lt_stop consumes member
          omega
      · omega
      · have := again.start_lt_stop consumes inOther
        omega

/-- A text has one scan. -/
theorem unique (scan : pattern.IsScan before text found) (consumes : pattern.Consumes)
    (again : pattern.IsScan before text other) : found = other := by
  have increasing : ∀ {ms}, pattern.IsScan before text ms →
      ms.Pairwise fun a b : Match => a.start < b.start := by
    intro ms scanned
    refine scanned.ordered.imp_of_mem fun inMs _ before => ?_
    exact Nat.lt_of_lt_of_le (scanned.start_lt_stop consumes inMs) before
  have : Std.Irrefl fun a b : Match => a.start < b.start := ⟨fun _ => Nat.lt_irrefl _⟩
  have : Std.Antisymm fun a b : Match => a.start < b.start :=
    ⟨fun _ _ left right => absurd right (Nat.lt_asymm left)⟩
  exact (increasing scan).eq_of_mem_iff (increasing again) fun m =>
    ⟨scan.subset consumes again, again.subset consumes scan⟩

end IsScan

/-! ## Scans that are cut -/

theorem matchesFrom_add (pattern : Pattern) (offset pos skip : Nat) (before : Option Char)
    (text : Text) :
    pattern.matchesFrom (offset + pos) skip before text =
      (pattern.matchesFrom pos skip before text).map (Match.shift offset) := by
  induction text generalizing pos skip before with
  | nil =>
    rw [matchesFrom, matchesFrom]
    split
    · rw [List.map_singleton, Hit.shift_place]
    · rfl
  | cons c rest ih =>
    cases skip with
    | succ skip => exact ih (pos + 1) skip (some c)
    | zero =>
      rw [matchesFrom, matchesFrom]
      split
      · rw [List.map_cons, Hit.shift_place, ← ih, Nat.add_assoc]
      · exact ih (pos + 1) 0 (some c)

/-- A scan passes over the characters of a match already found. -/
theorem matchesFrom_length_append (pattern : Pattern) (pos : Nat) (before : Option Char)
    (text rest : Text) :
    pattern.matchesFrom pos text.length before (text ++ rest) =
      pattern.matchesFrom (pos + text.length) 0 (charBefore before text text.length) rest := by
  induction text generalizing pos before with
  | nil => rfl
  | cons c tail ih =>
    rw [List.length_cons, List.cons_append, matchesFrom, ih, charBefore_succ, Nat.add_right_comm,
      Nat.add_assoc]

/-- Where no match reaches over the end of a text, the scan of a longer text finds matches that
begin in the text, and then those of the rest. -/
theorem exists_matchesFrom_append {pattern : Pattern} {text rest : Text}
    (stays : ∀ before tail hit, tail <:+ text → tail ≠ [] →
      pattern.hit before (tail ++ rest) = some hit → hit.length ≤ tail.length)
    (pos : Nat) {skip : Nat} (short : skip ≤ text.length) (before : Option Char) :
    ∃ found, pattern.matchesFrom pos skip before (text ++ rest) =
        found ++ pattern.matchesFrom (pos + text.length) 0
          (charBefore before text text.length) rest ∧
      ∀ m ∈ found, m.start < pos + text.length := by
  induction text generalizing pos skip before with
  | nil =>
    obtain rfl := Nat.le_zero.mp short
    exact ⟨[], rfl, fun _ member => nomatch member⟩
  | cons c tail ih =>
    have tailStays := fun before last hit (suffix : last <:+ tail) =>
      stays before last hit (suffix.trans (List.suffix_cons c tail))
    have position : pos + (c :: tail).length = pos + 1 + tail.length := by
      rw [List.length_cons]
      omega
    rw [List.length_cons, charBefore_succ, ← List.length_cons, position, List.cons_append]
    cases skip with
    | succ skip => exact ih tailStays (pos + 1) (Nat.le_of_succ_le_succ short) (some c)
    | zero =>
      rw [matchesFrom]
      split
      · next hit here =>
        have length := stays before (c :: tail) hit List.suffix_rfl (List.cons_ne_nil _ _) here
        have inside : hit.length - 1 ≤ tail.length := by
          rw [List.length_cons] at length
          omega
        obtain ⟨found, same, early⟩ := ih tailStays (pos + 1) inside (some c)
        refine ⟨hit.place pos :: found, by rw [same, List.cons_append], fun m member => ?_⟩
        rcases List.mem_cons.mp member with rfl | later
        · exact Nat.lt_of_lt_of_le (Nat.lt_succ_self pos) (Nat.le_add_right _ _)
        · exact early m later
      · exact ih tailStays (pos + 1) (Nat.zero_le _) (some c)

/-- A scan is cut at a character where a match ends as at the end of the text: what it finds on
either side it finds as if the other side were not there. -/
theorem matchesFrom_append_cut {pattern : Pattern} {cut : Char} {text rest : Text}
    (ends : ∀ before, pattern.hit before [] = none)
    (same : ∀ before tail, tail <:+ text →
      pattern.hit before (tail ++ cut :: rest) = pattern.hit before tail)
    (pos : Nat) {skip : Nat} (short : skip ≤ text.length) (before : Option Char) :
    pattern.matchesFrom pos skip before (text ++ cut :: rest) =
      pattern.matchesFrom pos skip before text ++
        pattern.matchesFrom (pos + text.length + 1) 0 (some cut) rest := by
  induction text generalizing pos skip before with
  | nil =>
    obtain rfl := Nat.le_zero.mp short
    have nothing : pattern.hit before (cut :: rest) = none :=
      (same before [] List.suffix_rfl).trans (ends before)
    rw [List.nil_append, matchesFrom, ends, matchesFrom, nothing]
    rfl
  | cons c tail ih =>
    have tailSame := fun before last (suffix : last <:+ tail) =>
      same before last (suffix.trans (List.suffix_cons c tail))
    have position : pos + (c :: tail).length + 1 = pos + 1 + tail.length + 1 := by
      rw [List.length_cons]
      omega
    rw [position]
    cases skip with
    | succ skip => exact ih tailSame (pos + 1) (Nat.le_of_succ_le_succ short) (some c)
    | zero =>
      have here :
          pattern.hit before (c :: (tail ++ cut :: rest)) = pattern.hit before (c :: tail) :=
        same before (c :: tail) List.suffix_rfl
      rw [List.cons_append, matchesFrom, matchesFrom, here]
      split
      · next hit found =>
        rw [ih tailSame (pos + 1) (length_sub_one_le found), List.cons_append]
      · exact ih tailSame (pos + 1) (Nat.zero_le _) (some c)

theorem matchesIn_append_cut {pattern : Pattern} {cut : Char} {text rest : Text}
    (ends : ∀ before, pattern.hit before [] = none)
    (same : ∀ before tail, tail <:+ text →
      pattern.hit before (tail ++ cut :: rest) = pattern.hit before tail) (before : Option Char) :
    pattern.matchesIn before (text ++ cut :: rest) =
      pattern.matchesIn before text ++
        (pattern.matchesIn (some cut) rest).map (Match.shift (text.length + 1)) := by
  unfold matchesIn
  rw [matchesFrom_append_cut ends same 0 (Nat.zero_le _), ← matchesFrom_add]
  congr 2
  omega

/-- A pattern bound to its line matches on either side of a line feed as if the other side were
not there. -/
theorem matchesIn_append_newline {pattern : Pattern} (bound : pattern.lineBound = true)
    {text : Text} (closed : ¬ EndsInOpenDeclaration text) (rest : Text) (before : Option Char) :
    pattern.matchesIn before (text ++ '\n' :: rest) =
      pattern.matchesIn before text ++
        (pattern.matchesIn (some '\n') rest).map (Match.shift (text.length + 1)) :=
  matchesIn_append_cut (hit_nil bound)
    (fun before tail suffix =>
      hit_append_newline bound before (fun _ isOpen => closed ⟨tail, suffix, isOpen⟩) rest) before

/-- A pattern bound to its word matches on either side of a blank as if the other side were not
there. -/
theorem matchesIn_append_blank {pattern : Pattern} (bound : pattern.wordBound = true) {b : Char}
    (blank : isBlank b = true) {text : Text} (closed : ¬ EndsInOpenDeclaration text) (rest : Text)
    (before : Option Char) :
    pattern.matchesIn before (text ++ b :: rest) =
      pattern.matchesIn before text ++
        (pattern.matchesIn (some b) rest).map (Match.shift (text.length + 1)) :=
  matchesIn_append_cut (hit_nil (lineBound_of_wordBound bound))
    (fun before tail suffix =>
      hit_append_blank bound before blank (fun _ isOpen => closed ⟨tail, suffix, isOpen⟩) rest)
    before

/-- A scan that starts after a blank finds what one finds at the start of the text. -/
theorem matchesIn_after_blank (pattern : Pattern) {b : Char} (blank : isBlank b = true)
    (text : Text) : pattern.matchesIn (some b) text = pattern.matchesIn none text := by
  unfold matchesIn
  cases text with
  | nil => rw [matchesFrom, matchesFrom, hit_after_blank pattern blank]
  | cons c rest => rw [matchesFrom, matchesFrom, hit_after_blank pattern blank]

end Pattern

end TurtleEdit
