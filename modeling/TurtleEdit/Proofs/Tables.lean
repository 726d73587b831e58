import TurtleEdit.Proofs.Resuming
import TurtleEdit.Proofs.Spans

/-!
What a rule table means, without a canvas.

A table gives each offset of a region at most one style, rule after rule. A rule gives its style to
the offsets that it claims: for one of its matches, what it aims at holds the offset, and the rule
overrides or finds the offset and the first one of what it aims at without a style. Here "finds" is
said of what the rules before it left, not of what the rule itself has painted so far. Both come to
the same, because the matches of a rule do not overlap.

Painting is this meaning carried out on a canvas, so the spans of a region tell exactly the offsets
that have a style, and which. Painting stops at the first rule that asks for a group its pattern
does not have, if the pattern is found at all, be it with empty matches only.
-/

namespace TurtleEdit

/-! ## The meaning of a table -/

/-- A rule claims an offset for a match, after rules that left the styles `styleAt`. -/
def Rule.Claims (rule : Rule) (styleAt : Nat → Option Style) (m : Match) (i : Nat) : Prop :=
  ∃ part ∈ rule.target m, part.1 ≤ i ∧ i < part.2 ∧
    (rule.overrides = true ∨ styleAt part.1 = none ∧ styleAt i = none)

instance (rule : Rule) (styleAt : Nat → Option Style) (m : Match) (i : Nat) :
    Decidable (rule.Claims styleAt m i) :=
  inferInstanceAs (Decidable (∃ part ∈ rule.target m, _))

/-- The styles after a rule whose matches are `found`. -/
def Rule.restyle (rule : Rule) (found : List Match) (styleAt : Nat → Option Style) (i : Nat) :
    Option Style :=
  if ∃ m ∈ found, rule.Claims styleAt m i then some rule.style else styleAt i

/-- The styles that a table gives the offsets of a region. -/
def declaredStyle (rules : List Rule) (text : Text) (region : Region) : Nat → Option Style :=
  rules.foldl (fun styleAt rule => rule.restyle (region.matches rule.pattern text) styleAt)
    fun _ => none

/-- The rule asks for a group that its pattern, which is found in the region, does not have. -/
def Rule.AsksInVain (rule : Rule) (text : Text) (region : Region) : Prop :=
  rule.groupExists = false ∧ region.matches rule.pattern text ≠ []

instance (rule : Rule) (text : Text) (region : Region) : Decidable (rule.AsksInVain text region) :=
  inferInstanceAs (Decidable (_ ∧ _))

/-- A rule that does not override leaves styles as they are. -/
theorem Rule.restyle_of_styled {rule : Rule} (keeps : rule.overrides = false) (found : List Match)
    {styleAt : Nat → Option Style} {i : Nat} {style : Style} (styled : styleAt i = some style) :
    rule.restyle found styleAt i = some style := by
  rw [restyle, if_neg, styled]
  rintro ⟨m, -, part, -, -, -, overrides | ⟨-, free⟩⟩
  · rw [keeps] at overrides
    cases overrides
  · rw [styled] at free
    cases free

theorem declaredStyle_append_of_styled {rules more : List Rule}
    (keep : ∀ rule ∈ more, rule.overrides = false) {text : Text} {region : Region} {i : Nat}
    {style : Style} (styled : declaredStyle rules text region i = some style) :
    declaredStyle (rules ++ more) text region i = some style := by
  unfold declaredStyle at styled ⊢
  rw [List.foldl_append]
  generalize rules.foldl _ _ = styleAt at styled
  induction more generalizing styleAt with
  | nil => exact styled
  | cons rule rest ih =>
    obtain ⟨ruleKeeps, restKeep⟩ := List.forall_mem_cons.mp keep
    exact ih restKeep _ (rule.restyle_of_styled ruleKeeps _ styled)

/-! ## Rules that override -/

namespace Rule

variable {rule : Rule} {canvas : Canvas} {m : Match} {i : Nat}

/-- What the rule aims at for a match holds an offset. -/
def AimsAt (rule : Rule) (m : Match) (i : Nat) : Prop :=
  ∃ part ∈ rule.target m, part.1 ≤ i ∧ i < part.2

theorem getElem?_paint_of_aimsAt (overrides : rule.overrides = true) (aims : rule.AimsAt m i)
    (inside : i < canvas.length) : (rule.paint canvas m)[i]? = some (some rule.style) := by
  obtain ⟨⟨start, stop⟩, target, low, high⟩ := aims
  dsimp only at low high
  rw [paint, Option.mem_def.mp target]
  simp only [overrides, Bool.true_or, ite_true]
  rw [Canvas.getElem?_fill, List.getElem?_eq_getElem inside]
  simp [low, high]

theorem getElem?_paint_of_not_aimsAt (aside : ¬ rule.AimsAt m i) :
    (rule.paint canvas m)[i]? = canvas[i]? := by
  refine getElem?_paint_of_outside rule canvas fun part target => ?_
  by_contra between
  exact aside ⟨part, target, by omega, by omega⟩

/-- A coat that overrides paints whatever its matches aim at. -/
theorem getElem?_coat_of_overrides (overrides : rule.overrides = true) (before : Option Char)
    (text : Text) (inside : i < canvas.length) :
    (∃ m ∈ rule.pattern.matchesIn before text, rule.AimsAt m i) ∧
        (rule.coat before text canvas)[i]? = some (some rule.style) ∨
      (¬ ∃ m ∈ rule.pattern.matchesIn before text, rule.AimsAt m i) ∧
        (rule.coat before text canvas)[i]? = canvas[i]? := by
  unfold coat
  generalize rule.pattern.matchesIn before text = found
  -- the last match that aims at the offset decides, and all of them decide alike
  induction found generalizing canvas with
  | nil =>
    refine Or.inr ⟨?_, rfl⟩
    rintro ⟨m, member, -⟩
    cases member
  | cons first rest ih =>
    simp only [List.exists_mem_cons_iff, List.foldl_cons]
    have inside' : i < (rule.paint canvas first).length := by rwa [length_paint]
    rcases ih inside' with ⟨later, painted⟩ | ⟨none, kept⟩
    · exact Or.inl ⟨Or.inr later, painted⟩
    · by_cases aims : rule.AimsAt first i
      · exact Or.inl ⟨Or.inl aims, kept.trans (getElem?_paint_of_aimsAt overrides aims inside)⟩
      · refine Or.inr ⟨?_, kept.trans (getElem?_paint_of_not_aimsAt aims)⟩
        rintro (atFirst | later)
        · exact aims atFirst
        · exact none later

end Rule

/-! ## Painting carries the meaning out -/

namespace Canvas

/-- The style at an offset of a text, of which the canvas holds a part that starts at `offset`. -/
def styleAt (canvas : Canvas) (offset i : Nat) : Option Style :=
  if offset ≤ i then canvas[i - offset]?.join else none

theorem styleAt_add (canvas : Canvas) (offset i : Nat) :
    canvas.styleAt offset (offset + i) = canvas[i]?.join := by
  rw [styleAt, if_pos (Nat.le_add_right _ _), Nat.add_sub_cancel_left]

theorem styleAt_of_lt (canvas : Canvas) {offset i : Nat} (before : i < offset) :
    canvas.styleAt offset i = none := if_neg (Nat.not_le.mpr before)

theorem styleAt_empty (size offset : Nat) : (empty size).styleAt offset = fun _ => none := by
  funext i
  unfold styleAt empty
  split
  · rw [List.getElem?_replicate]
    split
    · rfl
    · rfl
  · rfl

/-- The spans of a canvas tell the styles of its offsets. -/
theorem exists_covers_iff (canvas : Canvas) (offset i : Nat) (style : Style) :
    (∃ span ∈ canvas.spans offset, span.Covers i style) ↔ canvas.styleAt offset i = some style := by
  by_cases before : i < offset
  · rw [styleAt_of_lt canvas before]
    refine ⟨fun ⟨span, member, covers⟩ => ?_, fun none => nomatch none⟩
    have start := (bounds_of_mem_spans member).1
    have low := covers.2.1
    omega
  · obtain ⟨j, rfl⟩ : ∃ j, i = offset + j := ⟨i - offset, by omega⟩
    rw [← getElem?_eq_iff_exists_covers, styleAt_add, Option.join_eq_some_iff]

end Canvas

namespace Rule

variable {rule : Rule} {canvas : Canvas} {m : Match} {offset i : Nat}

/-- On a canvas, a rule that overrides claims what it aims at. -/
theorem claims_shift_iff_aimsAt (overrides : rule.overrides = true) :
    rule.Claims (canvas.styleAt offset) (m.shift offset) (offset + i) ↔ rule.AimsAt m i := by
  unfold Claims AimsAt
  rw [target_shift]
  constructor
  · rintro ⟨_, aims, low, high, -⟩
    obtain ⟨part, own, rfl⟩ := Option.map_eq_some_iff.mp aims
    dsimp only at low high
    exact ⟨part, own, by omega, by omega⟩
  · rintro ⟨part, own, low, high⟩
    refine ⟨_, Option.map_eq_some_iff.mpr ⟨part, own, rfl⟩, ?_, ?_, Or.inl overrides⟩
    · dsimp only
      omega
    · dsimp only
      omega

/-- On a canvas, any other rule claims what it paints. -/
theorem claims_shift_iff_paints (keeps : rule.overrides = false) (inside : m.Within canvas.length) :
    rule.Claims (canvas.styleAt offset) (m.shift offset) (offset + i) ↔ rule.Paints canvas m i := by
  have free : ∀ j, j < canvas.length → (canvas[j]?.join = none ↔ canvas[j]? = some none) := by
    intro j bound
    rw [List.getElem?_eq_getElem bound, Option.join_some, Option.some_inj]
  unfold Claims Paints
  rw [target_shift]
  constructor
  · rintro ⟨_, aims, low, high, overrides | ⟨atStart, here⟩⟩
    · rw [keeps] at overrides
      cases overrides
    · obtain ⟨part, own, rfl⟩ := Option.map_eq_some_iff.mp aims
      have bounds := target_within inside own
      dsimp only at low high atStart
      rw [Canvas.styleAt_add, free _ (by omega)] at atStart here
      exact ⟨here, part, own, atStart, by omega, by omega⟩
  · rintro ⟨here, part, own, atStart, low, high⟩
    have bounds := target_within inside own
    refine ⟨_, Option.map_eq_some_iff.mpr ⟨part, own, rfl⟩, ?_, ?_, Or.inr ⟨?_, ?_⟩⟩
    · dsimp only
      omega
    · dsimp only
      omega
    · rw [Canvas.styleAt_add, free _ (by omega), atStart]
    · rw [Canvas.styleAt_add, free _ (by omega), here]

/-- What a coat makes of a character of the canvas. -/
theorem getElem?_coat_claims (rule : Rule) (before : Option Char) {text : Text}
    (size : canvas.length = text.length) (offset i : Nat) :
    (∃ m ∈ rule.pattern.matchesIn before text,
        rule.Claims (canvas.styleAt offset) (m.shift offset) (offset + i)) ∧
        (rule.coat before text canvas)[i]? = some (some rule.style) ∨
      (¬ ∃ m ∈ rule.pattern.matchesIn before text,
        rule.Claims (canvas.styleAt offset) (m.shift offset) (offset + i)) ∧
        (rule.coat before text canvas)[i]? = canvas[i]? := by
  have within : ∀ m ∈ rule.pattern.matchesIn before text, m.Within canvas.length := by
    intro m member
    rw [size]
    exact Pattern.within_of_mem_matchesIn member
  cases overrides : rule.overrides with
  | false =>
    have same : (∃ m ∈ rule.pattern.matchesIn before text,
        rule.Claims (canvas.styleAt offset) (m.shift offset) (offset + i)) ↔
        ∃ m ∈ rule.pattern.matchesIn before text, rule.Paints canvas m i :=
      exists_congr fun m => and_congr_right fun member =>
        claims_shift_iff_paints overrides (within m member)
    rw [same]
    exact rule.getElem?_coat overrides before text canvas i
  | true =>
    have same : (∃ m ∈ rule.pattern.matchesIn before text,
        rule.Claims (canvas.styleAt offset) (m.shift offset) (offset + i)) ↔
        ∃ m ∈ rule.pattern.matchesIn before text, rule.AimsAt m i :=
      exists_congr fun m => and_congr_right fun _ => claims_shift_iff_aimsAt overrides
    rw [same]
    by_cases inside : i < canvas.length
    · exact getElem?_coat_of_overrides overrides before text inside
    · refine Or.inr ⟨?_, ?_⟩
      · rintro ⟨m, member, part, aims, -, high⟩
        have bounds := target_within (within m member) aims
        omega
      · rw [List.getElem?_eq_none (by rw [length_coat]; omega), List.getElem?_eq_none (by omega)]

/-- One coat gives the offsets of the canvas the styles that its rule gives them. -/
theorem styleAt_coat (rule : Rule) (before : Option Char) {text : Text}
    (size : canvas.length = text.length) (offset : Nat) :
    (rule.coat before text canvas).styleAt offset =
      rule.restyle ((rule.pattern.matchesIn before text).map (Match.shift offset))
        (canvas.styleAt offset) := by
  funext i
  unfold restyle
  simp only [List.mem_map, exists_exists_and_eq_and]
  by_cases ahead : i < offset
  · rw [Canvas.styleAt_of_lt _ ahead, Canvas.styleAt_of_lt _ ahead, if_neg]
    rintro ⟨m, -, _, aims, low, -, -⟩
    rw [target_shift] at aims
    obtain ⟨part, -, rfl⟩ := Option.map_eq_some_iff.mp aims
    dsimp only at low
    omega
  · obtain ⟨j, rfl⟩ : ∃ j, i = offset + j := ⟨i - offset, by omega⟩
    rw [Canvas.styleAt_add, Canvas.styleAt_add]
    rcases rule.getElem?_coat_claims before size offset j with ⟨claimed, cell⟩ | ⟨free, cell⟩
    · rw [if_pos claimed, cell, Option.join_some]
    · rw [if_neg free, cell]

end Rule

/-- Coat after coat, the canvas of a region shows the styles that the table gives. -/
theorem styleAt_foldl_coat (rules : List Rule) (text : Text) (region : Region) {canvas : Canvas}
    (size : canvas.length = (region.body text).length) :
    (rules.foldl (fun canvas rule => rule.coat (region.before text) (region.body text) canvas)
        canvas).styleAt region.start =
      rules.foldl (fun styleAt rule => rule.restyle (region.matches rule.pattern text) styleAt)
        (canvas.styleAt region.start) := by
  induction rules generalizing canvas with
  | nil => rfl
  | cons rule rest ih =>
    have next := ih ((rule.length_coat (region.before text) (region.body text) canvas).trans size)
    rw [rule.styleAt_coat (region.before text) size] at next
    exact next

/-! ## Groups that do not exist -/

theorem Rule.apply_of_asksInVain {rule : Rule} {text : Text} {region : Region}
    (vain : rule.AsksInVain text region) (canvas : Canvas) :
    rule.apply (region.before text) (region.body text) canvas = .error ⟨rule⟩ := by
  have found : rule.pattern.matchesIn (region.before text) (region.body text) ≠ [] :=
    fun none => vain.2 (by rw [Region.matches, none, List.map_nil])
  rw [apply, vain.1]
  simp only [Bool.false_eq_true, if_false, List.isEmpty_iff, if_neg found]

theorem Rule.apply_of_not_asksInVain {rule : Rule} {text : Text} {region : Region}
    (fulfilled : ¬ rule.AsksInVain text region) (canvas : Canvas) :
    rule.apply (region.before text) (region.body text) canvas =
      .ok (rule.coat (region.before text) (region.body text) canvas) := by
  cases has : rule.groupExists with
  | true => exact apply_eq_coat has _ _ _
  | false =>
    have none : rule.pattern.matchesIn (region.before text) (region.body text) = [] := by
      by_contra found
      exact fulfilled ⟨has, fun none => found (List.map_eq_nil_iff.mp none)⟩
    rw [apply, coat, has, none]
    rfl

/-- Painting stops at the first rule that asks in vain for a group. -/
theorem paintRegion_eq (rules : List Rule) (text : Text) (region : Region) :
    paintRegion rules text region =
      match rules.find? fun rule => rule.AsksInVain text region with
      | some rule => .error ⟨rule⟩
      | none => .ok (rules.foldl
          (fun canvas rule => rule.coat (region.before text) (region.body text) canvas)
          (Canvas.empty (region.body text).length)) := by
  unfold paintRegion
  generalize Canvas.empty (region.body text).length = canvas
  induction rules generalizing canvas with
  | nil => rfl
  | cons rule rest ih =>
    rw [List.foldlM_cons, List.foldl_cons]
    by_cases vain : rule.AsksInVain text region
    · rw [Rule.apply_of_asksInVain vain, List.find?_cons_of_pos (by simpa using vain)]
      rfl
    · rw [Rule.apply_of_not_asksInVain vain, List.find?_cons_of_neg (by simpa using vain)]
      exact ih _

/-! ## Tables and spans -/

/-- A table fails if one of its rules asks in vain for a group, and reports what it means
otherwise. -/
theorem classify_eq_declared (rules : List Rule) (text : Text) (start : Int) (stop : Option Int) :
    let region := (Region.extend text start (stop.getD text.length)).1
    (∃ rule ∈ rules, rule.AsksInVain text region ∧
        classify rules text start stop = .error ⟨rule⟩) ∨
      (∀ rule ∈ rules, ¬ rule.AsksInVain text region) ∧
        ∃ spans, classify rules text start stop = .ok spans ∧ ∀ i style,
          (∃ span ∈ spans, span.Covers i style) ↔
            declaredStyle rules text region i = some style := by
  intro region
  have painted := paintRegion_eq rules text region
  cases first : rules.find? fun rule => rule.AsksInVain text region with
  | some rule =>
    rw [first] at painted
    have vain : rule.AsksInVain text region := by simpa using List.find?_some first
    refine Or.inl ⟨rule, List.mem_of_find?_eq_some first, vain, ?_⟩
    rw [classify, painted]
    rfl
  | none =>
    rw [first] at painted
    have fulfilled := List.find?_eq_none.mp first
    refine Or.inr ⟨fun rule member => by simpa using fulfilled rule member, _,
      classify_of_paintRegion text start stop rfl painted, fun i style => ?_⟩
    rw [Canvas.exists_covers_iff, styleAt_foldl_coat rules text region (Canvas.length_empty _),
      Canvas.styleAt_empty]
    rfl

/-- What a table of rules means, whatever their patterns, styles, groups and flags. Classifying a
region fails exactly if a rule asks for a group that its pattern does not have and the pattern is
found in the widened region. Otherwise the spans cover exactly the offsets to which the table gives
a style, in that style. And further rules that do not override change no style that is given. -/
theorem classify_covers_iff_declaredStyle (rules : List Rule) (text : Text) (start : Int)
    (stop : Option Int) :
    let region := (Region.extend text start (stop.getD text.length)).1
    ((∃ failure, classify rules text start stop = .error failure) ↔
        ∃ rule ∈ rules, rule.groupExists = false ∧ region.matches rule.pattern text ≠ []) ∧
      (∀ spans, classify rules text start stop = .ok spans → ∀ i style,
        (∃ span ∈ spans, span.Covers i style) ↔ declaredStyle rules text region i = some style) ∧
      ∀ more : List Rule, (∀ rule ∈ more, rule.overrides = false) →
        ∀ spans longer, classify rules text start stop = .ok spans →
          classify (rules ++ more) text start stop = .ok longer →
          ∀ i style, (∃ span ∈ spans, span.Covers i style) →
            ∃ span ∈ longer, span.Covers i style := by
  intro region
  have tells : ∀ {table : List Rule} {spans}, classify table text start stop = .ok spans →
      ∀ i style, (∃ span ∈ spans, span.Covers i style) ↔
        declaredStyle table text region i = some style := by
    intro table spans done
    rcases classify_eq_declared table text start stop with
      ⟨rule, -, -, failed⟩ | ⟨-, others, same, covers⟩
    · exact nomatch failed.symm.trans done
    · obtain rfl : others = spans := Except.ok.inj (same.symm.trans done)
      exact covers
  refine ⟨⟨?_, ?_⟩, fun spans done => tells done, ?_⟩
  · rintro ⟨failure, failed⟩
    rcases classify_eq_declared rules text start stop with
      ⟨rule, member, vain, -⟩ | ⟨-, spans, done, -⟩
    · exact ⟨rule, member, vain⟩
    · exact nomatch done.symm.trans failed
  · rintro ⟨rule, member, vain⟩
    rcases classify_eq_declared rules text start stop with ⟨first, -, -, failed⟩ | ⟨fulfilled, -⟩
    · exact ⟨_, failed⟩
    · exact absurd vain (fulfilled rule member)
  · intro more keep spans longer done also i style covered
    have styled := (tells done i style).mp covered
    exact (tells also i style).mpr (declaredStyle_append_of_styled keep styled)

/-- A rule that overrides paints inside an iri, and a third rule, for a group that does not exist,
makes the table fail although it finds empty matches only. -/
theorem classify_covers_iff_declaredStyle_override :
    let rules : List Rule :=
      [⟨"angle", .enclosed '<' '>', .iri, 0, false⟩, ⟨"x", .single 'x', .comment, 0, true⟩]
    let vain : Rule := ⟨"y-star", .run 'y', .string, 1, false⟩
    let text := "<x>".toList
    declaredStyle rules text ⟨0, 3⟩ 1 = some .comment ∧
      declaredStyle rules text ⟨0, 3⟩ 2 = some .iri ∧
      (∃ spans, classify rules text 0 none = .ok spans ∧
        (∃ span ∈ spans, span.Covers 1 .comment) ∧ ∃ span ∈ spans, span.Covers 2 .iri) ∧
      ∃ failure, classify (rules ++ [vain]) text 0 none = .error failure := by
  intro rules vain text
  have second : declaredStyle rules text ⟨0, 3⟩ 1 = some .comment := by decide +kernel
  have third : declaredStyle rules text ⟨0, 3⟩ 2 = some .iri := by decide +kernel
  obtain ⟨fails, tells, -⟩ := classify_covers_iff_declaredStyle rules text 0 none
  obtain ⟨alsoFails, -, -⟩ := classify_covers_iff_declaredStyle (rules ++ [vain]) text 0 none
  refine ⟨second, third, ?_, alsoFails.mpr ⟨vain, by simp, by decide +kernel, by decide +kernel⟩⟩
  cases done : classify rules text 0 none with
  | error failure =>
    obtain ⟨rule, member, lacks, -⟩ := fails.mp ⟨failure, done⟩
    have groups : ∀ rule ∈ rules, rule.groupExists = true := by decide
    rw [groups rule member] at lacks
    cases lacks
  | ok spans =>
    have region : (Region.extend text 0 ((none : Option Int).getD text.length)).1 = ⟨0, 3⟩ := by
      decide +kernel
    rw [region] at tells
    exact ⟨spans, rfl, (tells spans done 1 .comment).mpr second,
      (tells spans done 2 .iri).mpr third⟩

end TurtleEdit
