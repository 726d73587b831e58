import TurtleEdit.Proofs.Painting

/-!
Two scans of a text, one from its start and one from a cut, and what they paint behind the cut.

A rule paints a character for a match if the part of the match that it aims at holds the character,
begins on an unpainted one, and finds the character unpainted. What a coat paints can be said this
way, cell by cell, because matches do not overlap. So the two scans paint the same behind the cut if
no match from before the cut paints there, and the matches that are taken behind it are the same.

That is enough, and for a rule table it is no more than needed where each rule is told by its style:
what is painted stays, so a difference that one rule makes is there after the last.
-/

namespace TurtleEdit

namespace Rule

variable {rule : Rule} {canvas : Canvas} {m : Match} {i : Nat}

/-! ## The cells of a coat -/

/-- A match is taken: what the rule aims at begins on an unpainted character. -/
def Takes (rule : Rule) (canvas : Canvas) (m : Match) : Prop :=
  ∃ part, rule.target m = some part ∧ canvas[part.1]? = some none

/-- For a match that is taken the rule paints a character. -/
def Paints (rule : Rule) (canvas : Canvas) (m : Match) (i : Nat) : Prop :=
  canvas[i]? = some none ∧
    ∃ part, rule.target m = some part ∧ canvas[part.1]? = some none ∧ part.1 ≤ i ∧ i < part.2

theorem Paints.takes (paints : rule.Paints canvas m i) : rule.Takes canvas m := by
  obtain ⟨-, part, aims, free, -, -⟩ := paints
  exact ⟨part, aims, free⟩

/-- What the rule aims at lies in the match. -/
def AimsInside (rule : Rule) (m : Match) : Prop :=
  ∀ part, rule.target m = some part → m.start ≤ part.1 ∧ part.1 ≤ part.2 ∧ part.2 ≤ m.stop

theorem Paints.bounds (paints : rule.Paints canvas m i) (inside : rule.AimsInside m) :
    m.start ≤ i ∧ i < m.stop := by
  obtain ⟨-, part, aims, -, low, high⟩ := paints
  obtain ⟨first, -, last⟩ := inside part aims
  omega

/-- A rule that aims at a whole match paints what is unpainted of it, from its start on. -/
theorem paints_iff (whole : rule.target m = some (m.start, m.stop)) :
    rule.Paints canvas m i ↔
      canvas[i]? = some none ∧ canvas[m.start]? = some none ∧ m.start ≤ i ∧ i < m.stop := by
  unfold Paints
  rw [whole]
  constructor
  · rintro ⟨here, part, aims, free, low, high⟩
    cases aims
    exact ⟨here, free, low, high⟩
  · rintro ⟨here, free, low, high⟩
    exact ⟨here, _, rfl, free, low, high⟩

theorem Takes.paints_start (takes : rule.Takes canvas m)
    (whole : rule.target m = some (m.start, m.stop)) (filled : m.start < m.stop) :
    rule.Paints canvas m m.start := by
  obtain ⟨part, aims, free⟩ := takes
  rw [whole] at aims
  cases aims
  exact (paints_iff whole).mpr ⟨free, free, Nat.le_refl _, filled⟩

theorem aimsInside_of_mem {pos skip : Nat} {before : Option Char} {text : Text}
    (member : m ∈ rule.pattern.matchesFrom pos skip before text) : rule.AimsInside m := by
  obtain ⟨k, hit, here, rfl, -⟩ := Pattern.hit_of_mem_matchesFrom member
  have inside := Pattern.hit_within here
  intro part aims
  unfold target at aims
  split at aims
  · cases aims
    exact ⟨Nat.le_refl _, Nat.le_add_right _ _, Nat.le_refl _⟩
  · obtain ⟨took, group, rfl⟩ := Option.map_eq_some_iff.mp aims
    have bounds := inside.group_le took group
    simp only [Hit.place]
    omega

theorem getElem?_paint_of_paints (paints : rule.Paints canvas m i) :
    (rule.paint canvas m)[i]? = some (some rule.style) := by
  obtain ⟨here, ⟨start, stop⟩, aims, free, low, high⟩ := paints
  dsimp only at free low high
  rw [paint, aims]
  simp only [free, Option.join_some, Option.isNone_none, Bool.or_true, ite_true]
  rw [Canvas.getElem?_fill, here]
  simp [low, high]

theorem getElem?_paint_of_not_paints (keeps : rule.overrides = false)
    (unpainted : ¬ rule.Paints canvas m i) : (rule.paint canvas m)[i]? = canvas[i]? := by
  cases here : canvas[i]? with
  | none =>
    have outside := List.getElem?_eq_none_iff.mp here
    exact List.getElem?_eq_none (by rw [length_paint]; exact outside)
  | some cell =>
    cases cell with
    | some style => exact getElem?_paint_of_styled keeps m here
    | none =>
      rw [← here]
      unfold paint
      split
      · rfl
      · next start stop aims =>
        split
        · next begins =>
          refine Canvas.getElem?_fill_of_outside _ _ _ ?_
          by_contra inside
          have reach : start < canvas.length := by
            have := (List.getElem?_eq_some_iff.mp here).1
            omega
          rw [keeps, Bool.false_or, List.getElem?_eq_getElem reach, Option.join_some,
            Option.isNone_iff_eq_none] at begins
          refine unpainted ⟨here, (start, stop), aims, ?_, by dsimp only; omega,
            by dsimp only; omega⟩
          rw [List.getElem?_eq_getElem reach, begins]
        · rfl

/-- What one match paints does not matter to a match behind it. -/
theorem paints_paint_iff (keeps : rule.overrides = false) {first : Match}
    (firstInside : rule.AimsInside first) (inside : rule.AimsInside m)
    (behind : first.stop ≤ m.start) :
    rule.Paints (rule.paint canvas first) m i ↔ rule.Paints canvas m i := by
  have same : ∀ j, m.start ≤ j → (rule.paint canvas first)[j]? = canvas[j]? := by
    intro j low
    refine getElem?_paint_of_not_paints keeps fun paints => ?_
    have bounds := paints.bounds firstInside
    omega
  unfold Paints
  constructor
  · rintro ⟨here, part, aims, free, low, high⟩
    have first := (inside part aims).1
    rw [same i (by omega)] at here
    rw [same part.1 first] at free
    exact ⟨here, part, aims, free, low, high⟩
  · rintro ⟨here, part, aims, free, low, high⟩
    have first := (inside part aims).1
    rw [← same i (by omega)] at here
    rw [← same part.1 first] at free
    exact ⟨here, part, aims, free, low, high⟩

section Foldl

variable {found : List Match}

/-- A match of a list that does not overlap paints what it would paint alone. -/
theorem getElem?_foldl_paint_of_paints (keeps : rule.overrides = false)
    (ordered : found.Pairwise fun a b => a.stop ≤ b.start)
    (inside : ∀ m ∈ found, rule.AimsInside m) (member : m ∈ found)
    (paints : rule.Paints canvas m i) :
    (found.foldl rule.paint canvas)[i]? = some (some rule.style) := by
  induction found generalizing canvas with
  | nil => cases member
  | cons first rest ih =>
    obtain ⟨apart, ordered⟩ := List.pairwise_cons.mp ordered
    obtain ⟨firstInside, restInside⟩ := List.forall_mem_cons.mp inside
    rw [List.foldl_cons]
    rcases List.mem_cons.mp member with rfl | later
    · exact getElem?_foldl_paint_of_styled keeps rest (getElem?_paint_of_paints paints)
    · refine ih ordered restInside later ?_
      exact (paints_paint_iff keeps firstInside (restInside m later) (apart m later)).mpr paints

/-- What no match of the list paints stays as it is. -/
theorem getElem?_foldl_paint_of_not_paints (keeps : rule.overrides = false)
    (ordered : found.Pairwise fun a b => a.stop ≤ b.start)
    (inside : ∀ m ∈ found, rule.AimsInside m)
    (unpainted : ∀ m ∈ found, ¬ rule.Paints canvas m i) :
    (found.foldl rule.paint canvas)[i]? = canvas[i]? := by
  induction found generalizing canvas with
  | nil => rfl
  | cons first rest ih =>
    obtain ⟨apart, ordered⟩ := List.pairwise_cons.mp ordered
    obtain ⟨firstInside, restInside⟩ := List.forall_mem_cons.mp inside
    obtain ⟨firstNot, restNot⟩ := List.forall_mem_cons.mp unpainted
    rw [List.foldl_cons, ih ordered restInside, getElem?_paint_of_not_paints keeps firstNot]
    intro m later paints
    exact restNot m later
      ((paints_paint_iff keeps firstInside (restInside m later) (apart m later)).mp paints)

end Foldl

/-- A coat paints what its matches paint, in the style of the rule, and nothing else. -/
theorem getElem?_coat (keeps : rule.overrides = false) (before : Option Char) (text : Text)
    (canvas : Canvas) (i : Nat) :
    (∃ m ∈ rule.pattern.matchesIn before text, rule.Paints canvas m i) ∧
        (rule.coat before text canvas)[i]? = some (some rule.style) ∨
      (¬ ∃ m ∈ rule.pattern.matchesIn before text, rule.Paints canvas m i) ∧
        (rule.coat before text canvas)[i]? = canvas[i]? := by
  have ordered := Pattern.matchesFrom_pairwise rule.pattern 0 0 before text
  have inside : ∀ m ∈ rule.pattern.matchesIn before text, rule.AimsInside m :=
    fun m member => aimsInside_of_mem member
  by_cases painted : ∃ m ∈ rule.pattern.matchesIn before text, rule.Paints canvas m i
  · obtain ⟨m, member, paints⟩ := painted
    exact Or.inl ⟨⟨m, member, paints⟩,
      getElem?_foldl_paint_of_paints keeps ordered inside member paints⟩
  · refine Or.inr ⟨painted, getElem?_foldl_paint_of_not_paints keeps ordered inside ?_⟩
    exact fun m member paints => painted ⟨m, member, paints⟩

end Rule

/-! ## The part of a region -/

/-- The part of a canvas that belongs to a region. -/
def Canvas.part (canvas : Canvas) (region : Region) : Canvas :=
  (canvas.take region.stop).drop region.start

theorem Canvas.getElem?_part (canvas : Canvas) {region : Region} {i : Nat}
    (inside : region.start + i < region.stop) :
    (canvas.part region)[i]? = canvas[region.start + i]? := by
  rw [part, List.getElem?_drop, List.getElem?_take_of_lt inside]

theorem Canvas.getElem?_part_of_le (canvas : Canvas) {region : Region} {i : Nat}
    (outside : region.stop ≤ region.start + i) : (canvas.part region)[i]? = none := by
  refine List.getElem?_eq_none ?_
  rw [part, List.length_drop, List.length_take]
  omega

/-- The matches that a scan of a region finds, at their offsets in the text. -/
def Region.matches (region : Region) (pattern : Pattern) (text : Text) : List Match :=
  (pattern.matchesIn (region.before text) (region.body text)).map (Match.shift region.start)

namespace Rule

variable {rule : Rule} {text : Text} {region : Region} {canvas : Canvas}

theorem paints_part_iff {m : Match} {i : Nat} (inside : region.start + i < region.stop) :
    rule.Paints (canvas.part region) m i ↔
      rule.Paints canvas (m.shift region.start) (region.start + i) := by
  unfold Paints
  rw [canvas.getElem?_part inside, target_shift]
  constructor
  · rintro ⟨here, ⟨start, stop⟩, aims, free, low, high⟩
    dsimp only at free low high
    rw [canvas.getElem?_part (by omega)] at free
    exact ⟨here, _, by rw [aims]; rfl, free, by dsimp only; omega, by dsimp only; omega⟩
  · rintro ⟨here, _, aims, free, low, high⟩
    obtain ⟨⟨start, stop⟩, old, rfl⟩ := Option.map_eq_some_iff.mp aims
    dsimp only at free low high
    refine ⟨here, (start, stop), old, ?_, by dsimp only; omega, by dsimp only; omega⟩
    rw [canvas.getElem?_part (by dsimp only; omega)]
    exact free

/-- In a region the matches of the text and those of the region paint the same characters. -/
def PaintsAlike (rule : Rule) (text : Text) (region : Region) (canvas : Canvas) : Prop :=
  ∀ i, region.start ≤ i → i < region.stop →
    ((∃ m ∈ rule.pattern.matchesIn none text, rule.Paints canvas m i) ↔
      ∃ m ∈ region.matches rule.pattern text, rule.Paints canvas m i)

theorem exists_matches_paints_iff {i : Nat} (inside : region.start + i < region.stop) :
    (∃ m ∈ region.matches rule.pattern text, rule.Paints canvas m (region.start + i)) ↔
      ∃ m ∈ rule.pattern.matchesIn (region.before text) (region.body text),
        rule.Paints (canvas.part region) m i := by
  unfold Region.matches
  constructor
  · rintro ⟨_, member, paints⟩
    obtain ⟨m, found, rfl⟩ := List.mem_map.mp member
    exact ⟨m, found, (paints_part_iff inside).mpr paints⟩
  · rintro ⟨m, found, paints⟩
    exact ⟨_, List.mem_map_of_mem found, (paints_part_iff inside).mp paints⟩

/-- Where the same characters are painted, the coat of the region is the part of the coat. -/
theorem part_coat (keeps : rule.overrides = false) (alike : rule.PaintsAlike text region canvas) :
    (rule.coat none text canvas).part region =
      rule.coat (region.before text) (region.body text) (canvas.part region) := by
  apply List.ext_getElem?
  intro i
  by_cases inside : region.start + i < region.stop
  · have same := (alike _ (Nat.le_add_right _ i) inside).trans (exists_matches_paints_iff inside)
    rw [Canvas.getElem?_part _ inside]
    rcases rule.getElem?_coat keeps none text canvas (region.start + i) with
      ⟨painted, full⟩ | ⟨unpainted, full⟩
    · rcases rule.getElem?_coat keeps (region.before text) (region.body text)
        (canvas.part region) i with ⟨-, own⟩ | ⟨not, -⟩
      · rw [full, own]
      · exact absurd (same.mp painted) not
    · rcases rule.getElem?_coat keeps (region.before text) (region.body text)
        (canvas.part region) i with ⟨painted, -⟩ | ⟨-, own⟩
      · exact absurd (same.mpr painted) unpainted
      · rw [full, own, canvas.getElem?_part inside]
  · have gone := Canvas.getElem?_part_of_le canvas (Nat.not_lt.mp inside)
    rw [Canvas.getElem?_part_of_le _ (Nat.not_lt.mp inside), List.getElem?_eq_none]
    rw [length_coat]
    exact List.getElem?_eq_none_iff.mp gone

/-- A scan that begins with a region resumes the scan of the text. What the latter takes before the
region paints nothing in the region, and in the region both take the same matches. -/
structure Resumes (rule : Rule) (text : Text) (region : Region) (canvas : Canvas) : Prop where
  spares : ∀ m ∈ rule.pattern.matchesIn none text, m.start < region.start →
    ∀ i, region.start ≤ i → i < region.stop → ¬ rule.Paints canvas m i
  taken : ∀ m, region.start ≤ m.start → m.start < region.stop → rule.Takes canvas m →
    (m ∈ rule.pattern.matchesIn none text ↔ m ∈ region.matches rule.pattern text)

theorem start_le_of_mem_matches {pattern : Pattern} {m : Match}
    (member : m ∈ region.matches pattern text) : region.start ≤ m.start := by
  obtain ⟨own, -, rfl⟩ := List.mem_map.mp member
  exact Nat.le_add_right _ _

theorem aimsInside_of_mem_matches {m : Match}
    (member : m ∈ region.matches rule.pattern text) : rule.AimsInside m := by
  obtain ⟨own, found, rfl⟩ := List.mem_map.mp member
  have inside : rule.AimsInside own := aimsInside_of_mem found
  intro part aims
  rw [target_shift] at aims
  obtain ⟨old, oldAims, rfl⟩ := Option.map_eq_some_iff.mp aims
  have bounds := inside old oldAims
  simp only [Match.shift]
  omega

/-- A scan that resumes the scan of the text paints the same. -/
theorem Resumes.paintsAlike (resumes : rule.Resumes text region canvas) :
    rule.PaintsAlike text region canvas := by
  intro i low high
  constructor
  · rintro ⟨m, member, paints⟩
    have bounds := paints.bounds (aimsInside_of_mem member)
    by_cases earlier : m.start < region.start
    · exact absurd paints (resumes.spares m member earlier i low high)
    · have same := resumes.taken m (by omega) (by omega) paints.takes
      exact ⟨m, same.mp member, paints⟩
  · rintro ⟨m, member, paints⟩
    have bounds := paints.bounds (aimsInside_of_mem_matches member)
    have same := resumes.taken m (start_le_of_mem_matches member) (by omega) paints.takes
    exact ⟨m, same.mpr member, paints⟩

end Rule

/-! ## Rule tables -/

/-- Coat after coat, the canvas of a region stays the part of the canvas of the text. -/
def KeepsPart (rules : List Rule) (text : Text) (region : Region) (canvas : Canvas) : Prop :=
  (rules.foldl (fun canvas rule => rule.coat none text canvas) canvas).part region =
    rules.foldl (fun canvas rule => rule.coat (region.before text) (region.body text) canvas)
      (canvas.part region)

/-- Each rule resumes the scan of the text, on the canvas that the rules before it leave. -/
def ResumesAll (text : Text) (region : Region) : List Rule → Canvas → Prop
  | [], _ => True
  | rule :: rest, canvas =>
    rule.Resumes text region canvas ∧ ResumesAll text region rest (rule.coat none text canvas)

section Tables

variable {rule : Rule} {rest rules : List Rule} {text : Text} {region : Region} {canvas : Canvas}

theorem keepsPart_cons_iff (keeps : rule.overrides = false)
    (alike : rule.PaintsAlike text region canvas) :
    KeepsPart (rule :: rest) text region canvas ↔
      KeepsPart rest text region (rule.coat none text canvas) := by
  unfold KeepsPart
  rw [List.foldl_cons, List.foldl_cons, Rule.part_coat keeps alike]

theorem getElem?_foldl_coat_of_styled (keeps : ∀ rule ∈ rules, rule.overrides = false)
    (before : Option Char) (body : Text) {i : Nat} {style : Style}
    (styled : canvas[i]? = some (some style)) :
    (rules.foldl (fun canvas rule => rule.coat before body canvas) canvas)[i]? =
      some (some style) := by
  induction rules generalizing canvas with
  | nil => exact styled
  | cons first others ih =>
    obtain ⟨firstKeeps, othersKeep⟩ := List.forall_mem_cons.mp keeps
    exact ih othersKeep (Rule.getElem?_coat_of_styled firstKeeps before body styled)

/-- A style that no rule has comes on no canvas. -/
theorem getElem?_foldl_coat_ne (keeps : ∀ rule ∈ rules, rule.overrides = false)
    (before : Option Char) (body : Text) {i : Nat} {style : Style}
    (foreign : ∀ rule ∈ rules, rule.style ≠ style) (other : canvas[i]? ≠ some (some style)) :
    (rules.foldl (fun canvas rule => rule.coat before body canvas) canvas)[i]? ≠
      some (some style) := by
  induction rules generalizing canvas with
  | nil => exact other
  | cons first others ih =>
    obtain ⟨firstKeeps, othersKeep⟩ := List.forall_mem_cons.mp keeps
    obtain ⟨firstForeign, othersForeign⟩ := List.forall_mem_cons.mp foreign
    refine ih othersKeep othersForeign fun same => ?_
    rcases first.getElem?_coat firstKeeps before body canvas i with ⟨-, painted⟩ | ⟨-, kept⟩
    · rw [painted] at same
      exact firstForeign (Option.some.inj (Option.some.inj same))
    · exact other (kept.symm.trans same)

/-- A rule whose style no later rule has paints the same, if the canvases are the same at the
end. -/
theorem KeepsPart.paintsAlike (kept : KeepsPart (rule :: rest) text region canvas)
    (keeps : ∀ other ∈ rule :: rest, other.overrides = false)
    (told : ∀ other ∈ rest, other.style ≠ rule.style) : rule.PaintsAlike text region canvas := by
  obtain ⟨ruleKeeps, restKeep⟩ := List.forall_mem_cons.mp keeps
  intro pos low high
  obtain ⟨i, rfl⟩ : ∃ i, pos = region.start + i := ⟨pos - region.start, by omega⟩
  rw [Rule.exists_matches_paints_iff high]
  have final := congrArg (·[i]?) kept
  simp only [List.foldl_cons] at final
  rw [Canvas.getElem?_part _ high] at final
  rcases rule.getElem?_coat ruleKeeps none text canvas (region.start + i) with
    ⟨painted, full⟩ | ⟨unpainted, full⟩
  · refine ⟨fun _ => ?_, fun _ => painted⟩
    rcases rule.getElem?_coat ruleKeeps (region.before text) (region.body text)
      (canvas.part region) i with ⟨also, -⟩ | ⟨-, own⟩
    · exact also
    · obtain ⟨m, -, paints⟩ := painted
      rw [getElem?_foldl_coat_of_styled restKeep none text full] at final
      refine absurd final.symm (getElem?_foldl_coat_ne restKeep _ _ told ?_)
      rw [own, canvas.getElem?_part high, paints.1]
      exact fun same => nomatch same
  · refine ⟨fun painted => absurd painted unpainted, fun painted => ?_⟩
    rcases rule.getElem?_coat ruleKeeps (region.before text) (region.body text)
      (canvas.part region) i with ⟨-, own⟩ | ⟨not, -⟩
    · obtain ⟨m, -, paints⟩ := painted
      have free := paints.1
      rw [canvas.getElem?_part high] at free
      rw [getElem?_foldl_coat_of_styled restKeep (region.before text) (region.body text) own]
        at final
      refine absurd final (getElem?_foldl_coat_ne restKeep _ _ told ?_)
      rw [full, free]
      exact fun same => nomatch same
    · exact absurd painted not

/-- Rules that resume the scan of the text one after the other keep the part. -/
theorem keepsPart_of_resumesAll (keeps : ∀ rule ∈ rules, rule.overrides = false)
    (resume : ResumesAll text region rules canvas) : KeepsPart rules text region canvas := by
  induction rules generalizing canvas with
  | nil => rfl
  | cons first others ih =>
    obtain ⟨firstKeeps, othersKeep⟩ := List.forall_mem_cons.mp keeps
    exact (keepsPart_cons_iff firstKeeps resume.1.paintsAlike).mpr (ih othersKeep resume.2)

end Tables

end TurtleEdit
