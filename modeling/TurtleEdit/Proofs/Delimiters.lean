import Mathlib.Data.List.Pairwise
import Mathlib.Order.Bounds.Basic
import TurtleEdit.Highlight.LongString

/-!
The triple quotes of a text, and the long strings that they pair up to.

The delimiters stand in order, three characters apart at least, and every triple quote of the text,
overlapping ones included, begins inside one of them. No other list of triple quotes is like that:
the first triple quote can only be covered by itself, and what it covers leaves a text to be scanned
from three characters later on. Paired from the left the delimiters give long strings that follow
one another without overlap, and each delimiter is the opener or the closer of one.
-/

namespace TurtleEdit

/-- Three quotes stand at `pos`, whatever stands before and after them. -/
def TripleAt (text : Text) (pos : Nat) : Prop := ['"', '"', '"'] <+: text.drop pos

/-! ## Delimiters -/

/-- A delimiter lies in the text it was found in. -/
theorem delimitersFrom_bounds {offset : Nat} {text : Text} {d : Nat}
    (member : d ∈ delimitersFrom offset text) :
    offset ≤ d ∧ d + 3 ≤ offset + text.length := by
  induction offset, text using delimitersFrom.induct with
  | case1 offset rest ih =>
    rw [delimitersFrom] at member
    simp only [List.length_cons]
    rcases List.mem_cons.mp member with rfl | later
    · omega
    · have inRest := ih later
      omega
  | case2 offset c rest noTriple ih =>
    rw [delimitersFrom.eq_2 _ _ _ noTriple] at member
    have inRest := ih member
    simp only [List.length_cons]
    omega
  | case3 offset => cases member

/-- A delimiter ends inside its text. -/
theorem delimiter_bound {text : Text} {d : Nat} (member : d ∈ delimiters text) :
    d + 3 ≤ text.length := by
  have bounds := delimitersFrom_bounds member
  omega

/-- Delimiters do not overlap. -/
theorem delimitersFrom_pairwise (offset : Nat) (text : Text) :
    (delimitersFrom offset text).Pairwise fun d e => d + 3 ≤ e := by
  induction offset, text using delimitersFrom.induct with
  | case1 offset rest ih =>
    rw [delimitersFrom]
    exact List.pairwise_cons.mpr ⟨fun e later => (delimitersFrom_bounds later).1, ih⟩
  | case2 offset c rest noTriple ih =>
    rw [delimitersFrom.eq_2 _ _ _ noTriple]
    exact ih
  | case3 offset => exact List.Pairwise.nil

/-- Every triple quote begins inside a delimiter. -/
theorem exists_delimitersFrom_of_tripleAt (offset : Nat) (text : Text) {pos : Nat}
    (triple : TripleAt text pos) :
    ∃ d ∈ delimitersFrom offset text, d ≤ offset + pos ∧ offset + pos < d + 3 := by
  induction offset, text using delimitersFrom.induct generalizing pos with
  | case1 offset rest ih =>
    rw [delimitersFrom]
    by_cases near : pos < 3
    · exact ⟨offset, List.mem_cons_self, by omega, by omega⟩
    · obtain ⟨far, rfl⟩ : ∃ far, pos = far + 3 := ⟨pos - 3, by omega⟩
      obtain ⟨d, member, low, high⟩ := @ih far triple
      exact ⟨d, List.mem_cons_of_mem _ member, by omega, by omega⟩
  | case2 offset c rest noTriple ih =>
    rw [delimitersFrom.eq_2 _ _ _ noTriple]
    cases pos with
    | zero =>
      obtain ⟨after, same⟩ := triple
      simp only [List.drop_zero, List.cons_append, List.nil_append, List.cons.injEq] at same
      exact (noTriple after same.1.symm same.2.symm).elim
    | succ pos =>
      obtain ⟨d, member, low, high⟩ := @ih pos triple
      exact ⟨d, member, by omega, by omega⟩
  | case3 offset =>
    obtain ⟨after, same⟩ := triple
    simp at same

/-- A delimiter is a triple quote, and the later ones are those of the text after it. -/
theorem of_delimitersFrom_eq_append {offset : Nat} {text : Text} {earlier later : List Nat}
    {d : Nat} (found : delimitersFrom offset text = earlier ++ d :: later) :
    TripleAt text (d - offset) ∧
      later = delimitersFrom (d + 3) (text.drop (d - offset + 3)) := by
  induction offset, text using delimitersFrom.induct generalizing earlier with
  | case1 offset rest ih =>
    rw [delimitersFrom] at found
    cases earlier with
    | nil =>
      obtain ⟨rfl, rfl⟩ := List.cons.inj found
      rw [Nat.sub_self]
      exact ⟨⟨rest, rfl⟩, rfl⟩
    | cons first earlier =>
      have inRest : delimitersFrom (offset + 3) rest = earlier ++ d :: later :=
        (List.cons.inj found).2
      have member : d ∈ delimitersFrom (offset + 3) rest := by simp [inRest]
      have bounds := delimitersFrom_bounds member
      obtain ⟨triple, rfl⟩ := ih inRest
      have further : d - offset = d - (offset + 3) + 3 := by omega
      rw [further]
      exact ⟨triple, rfl⟩
  | case2 offset c rest noTriple ih =>
    rw [delimitersFrom.eq_2 _ _ _ noTriple] at found
    have member : d ∈ delimitersFrom (offset + 1) rest := by simp [found]
    have bounds := delimitersFrom_bounds member
    obtain ⟨triple, rfl⟩ := ih found
    have further : d - offset = d - (offset + 1) + 1 := by omega
    rw [further]
    exact ⟨triple, rfl⟩
  | case3 offset => simp [delimitersFrom] at found

/-- Every triple quote of a text begins inside one of its delimiters. -/
theorem exists_delimiter_of_tripleAt {text : Text} {pos : Nat} (triple : TripleAt text pos) :
    ∃ d ∈ delimiters text, d ≤ pos ∧ pos < d + 3 := by
  obtain ⟨d, member, low, high⟩ := exists_delimitersFrom_of_tripleAt 0 text triple
  exact ⟨d, member, by omega, by omega⟩

theorem tripleAt_of_mem_delimiters {text : Text} {d : Nat} (member : d ∈ delimiters text) :
    TripleAt text d := by
  obtain ⟨earlier, later, split⟩ := List.append_of_mem member
  have triple := (of_delimitersFrom_eq_append split).1
  rwa [Nat.sub_zero] at triple

/-! ## The leftmost scan -/

/-- What a scan for triple quotes finds from `start` on: triple quotes that do not overlap, and no
other one begins outside of them. -/
structure ScansFrom (text : Text) (start : Nat) (found : List Nat) : Prop where
  triples : ∀ d ∈ found, start ≤ d ∧ TripleAt text d
  apart : found.Pairwise fun d e => d + 3 ≤ e
  covers : ∀ pos, start ≤ pos → TripleAt text pos → ∃ d ∈ found, d ≤ pos ∧ pos < d + 3

namespace ScansFrom

variable {text : Text} {start : Nat} {found : List Nat}

/-- A scan that finds nothing leaves no triple quote. -/
theorem nil_iff : ScansFrom text start [] ↔ ∀ pos, start ≤ pos → ¬ TripleAt text pos := by
  constructor
  · intro scan pos low triple
    obtain ⟨d, member, -⟩ := scan.covers pos low triple
    cases member
  · intro none
    refine ⟨fun d member => ?_, List.Pairwise.nil, fun pos low triple => ?_⟩
    · cases member
    · exact absurd triple (none pos low)

/-- A scan finds the first triple quote there is, and goes on three characters later. -/
theorem cons_iff {d : Nat} {later : List Nat} :
    ScansFrom text start (d :: later) ↔
      IsLeast {pos | start ≤ pos ∧ TripleAt text pos} d ∧ ScansFrom text (d + 3) later := by
  constructor
  · intro scan
    have first := scan.triples d List.mem_cons_self
    have behind := (List.pairwise_cons.mp scan.apart).1
    refine ⟨⟨first, ?_⟩, ⟨?_, scan.apart.of_cons, ?_⟩⟩
    · rintro pos ⟨low, triple⟩
      obtain ⟨e, member, reaches, -⟩ := scan.covers pos low triple
      rcases List.mem_cons.mp member with rfl | inLater
      · exact reaches
      · have := behind e inLater
        omega
    · intro e inLater
      exact ⟨behind e inLater, (scan.triples e (List.mem_cons_of_mem _ inLater)).2⟩
    · intro pos low triple
      obtain ⟨e, member, covers⟩ := scan.covers pos (by omega) triple
      rcases List.mem_cons.mp member with rfl | inLater
      · omega
      · exact ⟨e, inLater, covers⟩
  · rintro ⟨⟨first, least⟩, scan⟩
    have behind := fun e inLater => (scan.triples e inLater).1
    refine ⟨?_, List.pairwise_cons.mpr ⟨behind, scan.apart⟩, ?_⟩
    · intro e member
      rcases List.mem_cons.mp member with rfl | inLater
      · exact first
      · have low := behind e inLater
        exact ⟨Nat.le_trans first.1 (by omega), (scan.triples e inLater).2⟩
    · intro pos low triple
      have reaches : d ≤ pos := least ⟨low, triple⟩
      by_cases inside : pos < d + 3
      · exact ⟨d, List.mem_cons_self, reaches, inside⟩
      · obtain ⟨e, inLater, covers⟩ := scan.covers pos (Nat.le_of_not_lt inside) triple
        exact ⟨e, List.mem_cons_of_mem _ inLater, covers⟩

/-- There is one scan from an offset on. -/
theorem unique {other : List Nat} (scan : ScansFrom text start found)
    (again : ScansFrom text start other) : found = other := by
  induction found generalizing start other with
  | nil =>
    cases other with
    | nil => rfl
    | cons e others =>
      have triple := (cons_iff.mp again).1.1
      exact absurd triple.2 (nil_iff.mp scan e triple.1)
  | cons d later ih =>
    obtain ⟨first, rest⟩ := cons_iff.mp scan
    cases other with
    | nil => exact absurd first.1.2 (nil_iff.mp again d first.1.1)
    | cons e others =>
      obtain ⟨first', rest'⟩ := cons_iff.mp again
      obtain rfl := first.unique first'
      rw [ih rest rest']

/-- No offset lies in two of the triple quotes that a scan finds. -/
theorem eq_of_covers (scan : ScansFrom text start found) {d e pos : Nat} (inD : d ∈ found)
    (inE : e ∈ found) (coversD : d ≤ pos ∧ pos < d + 3) (coversE : e ≤ pos ∧ pos < e + 3) :
    d = e := by
  have symmetric : Std.Symm fun d e => d + 3 ≤ e ∨ e + 3 ≤ d := ⟨fun _ _ => Or.symm⟩
  have eitherWay : found.Pairwise fun d e => d + 3 ≤ e ∨ e + 3 ≤ d := scan.apart.imp Or.inl
  by_contra differ
  have := eitherWay.forall inD inE differ
  omega

end ScansFrom

/-- The delimiters of a text are what a scan finds from its start on. -/
theorem scansFrom_delimiters (text : Text) : ScansFrom text 0 (delimiters text) where
  triples d member := ⟨Nat.zero_le d, tripleAt_of_mem_delimiters member⟩
  apart := delimitersFrom_pairwise 0 text
  covers _ _ triple := exists_delimiter_of_tripleAt triple

/-- The delimiters of a text, and no other list, are triple quotes of which each stands three
characters at least behind the one before it, and every triple quote, overlapping ones included,
begins inside exactly one of them. -/
theorem eq_delimiters_iff_leftmost {text : Text} {found : List Nat} :
    found = delimiters text ↔
      (∀ d ∈ found, TripleAt text d) ∧
      (found.IsChain fun d e => d + 3 ≤ e) ∧
      ∀ pos, TripleAt text pos → ∃! d, d ∈ found ∧ d ≤ pos ∧ pos < d + 3 := by
  constructor
  · rintro rfl
    have scan := scansFrom_delimiters text
    refine ⟨fun d member => (scan.triples d member).2, scan.apart.isChain, fun pos triple => ?_⟩
    obtain ⟨d, member, covers⟩ := scan.covers pos (Nat.zero_le pos) triple
    exact ⟨d, ⟨member, covers⟩, fun e ⟨inScan, coversToo⟩ =>
      scan.eq_of_covers inScan member coversToo covers⟩
  · rintro ⟨triples, chain, covers⟩
    have : Trans (fun d e => d + 3 ≤ e) (fun d e => d + 3 ≤ e) fun d e : Nat => d + 3 ≤ e :=
      ⟨fun {_ _ _} _ _ => by omega⟩
    have scan : ScansFrom text 0 found :=
      ⟨fun d member => ⟨Nat.zero_le d, triples d member⟩, chain.pairwise,
        fun pos _ triple => (covers pos triple).exists⟩
    exact scan.unique (scansFrom_delimiters text)

/-- Of the five triple quotes in a run of seven quotes two are delimiters. -/
example : delimiters (List.replicate 7 '"') = [0, 3] := by decide

/-! ## Long strings -/

namespace LongString

/-- The offset lies strictly inside the string of a text of `size` characters. -/
def Cuts (size pos : Nat) (long : LongString) : Prop := long.opener < pos ∧ pos < long.stop size

/-- The delimiters of a long string are among those that were paired. -/
theorem of_mem_pair {ds : List Nat} {long : LongString} (member : long ∈ pair ds) :
    long.opener ∈ ds ∧ ∀ closer, long.closer = some closer → closer ∈ ds := by
  induction ds using pair.induct with
  | case1 opener closer rest ih =>
    rw [pair] at member
    rcases List.mem_cons.mp member with rfl | later
    · simp
    · have inRest := ih later
      exact ⟨by simp [inRest.1], fun c closes => by simp [inRest.2 c closes]⟩
  | case2 opener =>
    rw [pair] at member
    obtain rfl := List.mem_singleton.mp member
    simp
  | case3 => cases member

/-- A long string is closed by the delimiter after its opener. -/
theorem exists_of_mem_pair {ds : List Nat} {long : LongString} (member : long ∈ pair ds) :
    ∃ earlier later, ds = earlier ++ long.opener :: later ∧ long.closer = later.head? := by
  induction ds using pair.induct with
  | case1 opener closer rest ih =>
    rw [pair] at member
    rcases List.mem_cons.mp member with rfl | inRest
    · exact ⟨[], closer :: rest, rfl, rfl⟩
    · obtain ⟨earlier, later, rfl, closes⟩ := ih inRest
      exact ⟨opener :: closer :: earlier, later, rfl, closes⟩
  | case2 opener =>
    rw [pair] at member
    obtain rfl := List.mem_singleton.mp member
    exact ⟨[], [], rfl, rfl⟩
  | case3 => cases member

/-- Every delimiter opens or closes a long string. -/
theorem exists_of_mem {ds : List Nat} {d : Nat} (member : d ∈ ds) :
    ∃ long ∈ pair ds, long.opener = d ∨ long.closer = some d := by
  induction ds using pair.induct with
  | case1 opener closer rest ih =>
    rw [pair]
    rcases List.mem_cons.mp member with rfl | member
    · exact ⟨_, List.mem_cons_self, Or.inl rfl⟩
    rcases List.mem_cons.mp member with rfl | member
    · exact ⟨_, List.mem_cons_self, Or.inr rfl⟩
    obtain ⟨long, later, ends⟩ := ih member
    exact ⟨long, List.mem_cons_of_mem _ later, ends⟩
  | case2 opener =>
    obtain rfl := List.mem_singleton.mp member
    exact ⟨_, List.mem_cons_self, Or.inl rfl⟩
  | case3 => cases member

/-- The two delimiters of a closed string do not overlap. -/
theorem closer_of_mem_pair {ds : List Nat} (apart : ds.Pairwise fun d e => d + 3 ≤ e)
    {long : LongString} (member : long ∈ pair ds) {closer : Nat}
    (closes : long.closer = some closer) : long.opener + 3 ≤ closer := by
  induction ds using pair.induct with
  | case1 opener last rest ih =>
    rw [pair] at member
    rcases List.mem_cons.mp member with rfl | later
    · cases closes
      exact (List.pairwise_cons.mp apart).1 closer List.mem_cons_self
    · exact ih apart.of_cons.of_cons later
  | case2 opener =>
    rw [pair] at member
    obtain rfl := List.mem_singleton.mp member
    cases closes
  | case3 => cases member

/-- Long strings stand in order, and each one stops before the next opens. -/
theorem pair_pairwise (size : Nat) {ds : List Nat} (apart : ds.Pairwise fun d e => d + 3 ≤ e) :
    (pair ds).Pairwise fun a b => a.stop size ≤ b.opener := by
  induction ds using pair.induct with
  | case1 opener closer rest ih =>
    rw [pair]
    refine List.pairwise_cons.mpr ⟨fun later member => ?_, ih apart.of_cons.of_cons⟩
    exact (List.pairwise_cons.mp apart.of_cons).1 _ (of_mem_pair member).1
  | case2 opener => exact List.pairwise_singleton _ _
  | case3 => exact List.Pairwise.nil

/-- The long strings of a text stand in order and do not overlap. -/
theorem all_pairwise (text : Text) :
    (all text).Pairwise fun a b => a.stop text.length ≤ b.opener :=
  pair_pairwise _ (delimitersFrom_pairwise 0 text)

/-- A long string holds at least its opening delimiter, and lies in its text. -/
theorem bounds_of_mem_all {text : Text} {long : LongString} (member : long ∈ all text) :
    long.opener + 3 ≤ long.stop text.length ∧ long.stop text.length ≤ text.length := by
  have ends := of_mem_pair member
  have openerIn := delimitersFrom_bounds ends.1
  rcases long with ⟨opener, _ | closer⟩
  · simp only [stop] at openerIn ⊢
    omega
  · have closerIn := delimitersFrom_bounds (ends.2 closer rfl)
    have apart := closer_of_mem_pair (delimitersFrom_pairwise 0 text) member rfl
    simp only [stop] at apart ⊢
    omega

/-- A long string begins with three quotes, and its closing delimiter is the first triple quote
after them. -/
theorem opens_of_mem_all {text : Text} {long : LongString} (member : long ∈ all text) :
    text.drop long.opener = '"' :: '"' :: '"' :: text.drop (long.opener + 3) ∧
      long.closer = (delimitersFrom (long.opener + 3) (text.drop (long.opener + 3))).head? := by
  obtain ⟨earlier, later, found, closes⟩ := exists_of_mem_pair member
  obtain ⟨⟨rest, triple⟩, rfl⟩ := of_delimitersFrom_eq_append found
  rw [Nat.sub_zero] at triple closes
  refine ⟨?_, closes⟩
  rw [← List.drop_drop, ← triple]
  rfl

/-- Every triple quote of a text begins inside a long string. -/
theorem exists_of_tripleAt {text : Text} {pos : Nat} (triple : TripleAt text pos) :
    ∃ long ∈ all text, long.opener ≤ pos ∧ pos < long.stop text.length := by
  obtain ⟨d, found, low, high⟩ := exists_delimiter_of_tripleAt triple
  obtain ⟨long, member, ends⟩ := exists_of_mem found
  refine ⟨long, member, ?_⟩
  have bounds := bounds_of_mem_all member
  rcases ends with rfl | closes
  · omega
  · have apart := closer_of_mem_pair (delimitersFrom_pairwise 0 text) member closes
    have stops : long.stop text.length = d + 3 := by rw [stop, closes]
    omega

end LongString

end TurtleEdit
