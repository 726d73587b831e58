import TurtleEdit.Proofs.Crossing

/-!
Strings, and the strings between them.

Quotes without escapes pair up from left to right, so two scans of a line that start on different
sides of a quote pair them differently: what is a string for one is what stands between two strings
for the other, to the end of the line. Neither finds a string where the other does, and so they
paint the same only if they paint nothing, because all those strings begin on painted text. Behind
the line they find the same.
-/

namespace TurtleEdit

/-! ## Strings without escapes -/

/-- Without escapes the rest of a string runs to the next quote. -/
theorem exists_of_stringBody {text : Text} {n : Nat} (plain : '\\' ∉ text)
    (found : stringBody text = some n) :
    ∃ body rest, text = body ++ '"' :: rest ∧ isStringBody body = true ∧ '"' ∉ body ∧
      n = body.length + 1 := by
  induction text using stringBody.induct generalizing n with
  | case1 => cases found
  | case2 rest =>
    cases found
    exact ⟨[], rest, rfl, rfl, List.not_mem_nil, rfl⟩
  | case3 | case4 | case5 => exact absurd List.mem_cons_self plain
  | case6 rest noQuote noEscape noLast =>
    rw [stringBody.eq_5 _ _ noQuote noEscape noLast, if_pos rfl] at found
    cases found
  | case7 c rest noQuote noEscape noLast other ih =>
    rw [stringBody.eq_5 _ _ noQuote noEscape noLast, if_neg other] at found
    obtain ⟨k, inRest, rfl⟩ := Option.map_eq_some_iff.mp found
    obtain ⟨body, rest, rfl, isBody, unquoted, rfl⟩ :=
      ih (List.not_mem_of_not_mem_cons plain) inRest
    have quote : '"' ≠ c := fun same => noQuote same.symm
    have escape : c ≠ '\\' := fun same => plain (same ▸ List.mem_cons_self)
    refine ⟨c :: body, rest, rfl, ?_, List.not_mem_cons_of_ne_of_not_mem quote unquoted, rfl⟩
    rw [isStringBody.eq_3 _ _ (fun _ _ same => absurd same escape) (fun same => absurd same escape)]
    simp [other, quote.symm, isBody]

/-- A string without escapes: a quote, the characters up to the next one, and that. -/
theorem Pattern.exists_of_hit_string {pattern : Pattern} (strings : pattern = .string)
    {before : Option Char} {text : Text} {hit : Hit} (plain : '\\' ∉ text)
    (found : pattern.hit before text = some hit) :
    ∃ body rest, text = '"' :: (body ++ '"' :: rest) ∧ '"' ∉ body ∧
      hit = .whole (body.length + 2) := by
  subst strings
  simp only [Pattern.hit] at found
  split at found
  · obtain ⟨n, inRest, rfl⟩ := Option.map_eq_some_iff.mp found
    obtain ⟨body, rest, rfl, -, unquoted, rfl⟩ :=
      exists_of_stringBody (List.not_mem_of_not_mem_cons plain) inRest
    exact ⟨body, rest, rfl, unquoted, rfl⟩
  · cases found

theorem Rule.target_of_whole {rule : Rule} (whole : rule.group = 0) (m : Match) :
    rule.target m = some (m.start, m.stop) := by rw [target, if_pos whole]

/-! ## Two ways to pair quotes -/

/-- Two scans that start before a quote and behind it, and paint the same, take the same. -/
theorem Rule.mem_matchesFrom_string_iff {rule : Rule} (whole : rule.group = 0) {canvas : Canvas}
    {gap text : Text} (unquoted : '"' ∉ gap) (plain : '\\' ∉ text) (pos : Nat)
    (alike : ∀ i, (∃ m ∈ Pattern.string.matchesFrom (pos + gap.length + 1) 0 none text,
        rule.Paints canvas m i) ↔
      ∃ m ∈ Pattern.string.matchesFrom pos 0 none (gap ++ '"' :: text), rule.Paints canvas m i) :
    ∀ m, rule.Takes canvas m →
      (m ∈ Pattern.string.matchesFrom (pos + gap.length + 1) 0 none text ↔
        m ∈ Pattern.string.matchesFrom pos 0 none (gap ++ '"' :: text)) := by
  -- by induction on the text behind the quote: the first string of the one scan holds the gap
  -- before the first string of the other, so there the two change their parts
  induction size : text.length using Nat.strong_induction_on generalizing gap text pos with
  | _ total ih =>
    rw [Pattern.matchesFrom_string_append unquoted] at alike ⊢
    generalize pos + gap.length = quote at alike ⊢
    cases inText : stringBody text with
    | none =>
      have nothing : Pattern.string.hit none ('"' :: text) = none := by
        simp [Pattern.hit, inText]
      have same : Pattern.string.matchesFrom quote 0 none ('"' :: text) =
          Pattern.string.matchesFrom (quote + 1) 0 none text := by
        rw [Pattern.matchesFrom, nothing]
        exact Pattern.matchesFrom_string_before _ _ _ _ _
      exact fun m _ => by rw [same]
    | some n =>
      obtain ⟨body, rest, rfl, isBody, bodyUnquoted, rfl⟩ := exists_of_stringBody plain inText
      have found := Pattern.matchesFrom_string_quoted isBody quote none rest
      have text : '"' :: (body ++ ['"']) ++ rest = '"' :: (body ++ '"' :: rest) := by simp
      have stop : quote + ('"' :: (body ++ ['"'])).length = quote + 1 + body.length + 1 := by
        simp
        omega
      rw [text, stop] at found
      rw [found] at alike ⊢
      generalize isFirst : Hit.place (.whole ('"' :: (body ++ ['"'])).length) quote = first
        at alike ⊢
      have bounds : first.start = quote ∧ quote < first.stop := by
        rw [← isFirst]
        exact ⟨rfl, Nat.lt_add_of_pos_right (Nat.succ_pos _)⟩
      -- the first string is not taken, because the other scan paints nothing on its quote
      have untaken : ¬ rule.Takes canvas first := by
        intro taken
        have paints := taken.paints_start (target_of_whole whole first) (by omega)
        obtain ⟨other, later, also⟩ := (alike _).mpr ⟨first, List.mem_cons_self, paints⟩
        have behind := (Pattern.within_of_mem_matchesFrom later).1
        have start := ((paints_iff (target_of_whole whole other)).mp also).2.2.1
        omega
      have swapped : ∀ i, (∃ m ∈ Pattern.string.matchesFrom (quote + 1 + body.length + 1) 0 none
            rest, rule.Paints canvas m i) ↔
          ∃ m ∈ Pattern.string.matchesFrom (quote + 1) 0 none (body ++ '"' :: rest),
            rule.Paints canvas m i := by
        intro i
        rw [alike i, List.exists_mem_cons_iff, or_iff_right]
        exact fun paints => untaken paints.takes
      have shorter : rest.length < total := by
        rw [← size, List.length_append, List.length_cons]
        omega
      have plainRest : '\\' ∉ rest := fun inRest =>
        plain (List.mem_append_right _ (List.mem_cons_of_mem _ inRest))
      intro m taken
      have later := ih rest.length shorter bodyUnquoted plainRest (quote + 1) swapped rfl m taken
      rw [List.mem_cons, ← later, or_iff_right]
      rintro rfl
      exact untaken taken

/-! ## Strings that reach over a quote -/

/-- In a string without escapes quotes stand at its ends only. -/
theorem eq_of_getElem?_quoted {body rest : Text} (unquoted : '"' ∉ body) {i : Nat}
    (here : ('"' :: (body ++ '"' :: rest))[i]? = some '"') (inside : i ≤ body.length + 1) :
    i = 0 ∨ i = body.length + 1 := by
  cases i with
  | zero => exact Or.inl rfl
  | succ i =>
    rw [List.getElem?_cons_succ] at here
    by_cases early : i < body.length
    · rw [List.getElem?_append_left early] at here
      exact absurd (List.mem_of_getElem? here) unquoted
    · exact Or.inr (by omega)

section Seam

variable {rule : Rule} {text : Text} {region : Region} {canvas : Canvas} {earlier : List Match}
  {k s : Nat} (overhang : rule.pattern.Overhang text region earlier k)
  (strings : rule.pattern = .string) (plain : '\\' ∉ text)

include overhang strings plain

/-- A string that reaches over a painted quote begins or ends with it, and so it paints nothing
behind it. -/
theorem Rule.not_paints_string (whole : rule.group = 0) (beside : BesideQuote text region.start s)
    {style : Style} (painted : canvas[s]? = some (some style)) :
    ∀ m ∈ earlier, ∀ i, region.start ≤ i → i < region.stop → ¬ rule.Paints canvas m i := by
  intro m member i low high paints
  have before := (overhang.early m member).1
  obtain ⟨near, quote⟩ := beside
  obtain ⟨p, hit, here, rfl, -⟩ :=
    Pattern.hit_of_mem_matchesFrom (overhang.mem_of_earlier member)
  obtain ⟨body, rest, split, unquoted, rfl⟩ := Pattern.exists_of_hit_string strings
    (fun inRest => plain (List.mem_of_mem_drop inRest)) here
  obtain ⟨free, startFree, -, reach⟩ := (paints_iff (target_of_whole whole _)).mp paints
  simp only [Hit.place, Hit.whole, Nat.zero_add] at before startFree reach
  have inString : ('"' :: (body ++ '"' :: rest))[s - p]? = some '"' := by
    rw [← split, List.getElem?_drop, show p + (s - p) = s by omega, quote]
  rcases eq_of_getElem?_quoted unquoted inString (by omega) with first | last
  · rw [show s = p by omega, startFree] at painted
    cases painted
  · rw [show s = i by omega, free] at painted
    cases painted

/-- The overhang of a string: characters up to the quote that ends it. -/
theorem Rule.exists_body_of_string (present : k ≠ 0) :
    ∃ gap rest, region.body text = gap ++ '"' :: rest ∧ '"' ∉ gap ∧ k = gap.length + 1 := by
  obtain ⟨p, hit, before, reaches, here, -⟩ := overhang.exists_hit present
  obtain ⟨body, rest, split, unquoted, rfl⟩ := Pattern.exists_of_hit_string strings
    (fun inRest => plain (List.mem_of_mem_drop inRest)) here
  have short := overhang.short
  simp only [Hit.whole] at reaches
  obtain ⟨d, isStart⟩ : ∃ d, region.start = p + (d + 1) := ⟨region.start - p - 1, by omega⟩
  have room : k ≤ region.stop - region.start := Nat.le_trans short (List.length_take_le _ _)
  obtain ⟨more, isSize⟩ : ∃ more, region.stop - region.start = (body.drop d).length + (more + 1) :=
    ⟨region.stop - region.start - k, by rw [List.length_drop]; omega⟩
  refine ⟨body.drop d, rest.take more, ?_, fun inGap => unquoted (List.mem_of_mem_drop inGap), ?_⟩
  · rw [Region.body, isSize, isStart, ← List.drop_drop, split, List.drop_succ_cons,
      List.drop_append_of_le_length (by omega), List.take_length_add_append, List.take_succ_cons]
  · rw [List.length_drop]
    omega

/-- Where the same is painted, the strings of a region that starts beside a painted quote are those
of the text, but for such as begin on painted text. -/
theorem Rule.resumes_of_string (whole : rule.group = 0) (beside : BesideQuote text region.start s)
    {style : Style} (painted : canvas[s]? = some (some style))
    (alike : rule.PaintsAlike text region canvas) : rule.Resumes text region canvas := by
  by_cases nothing : k = 0
  · exact resumes_of_no_overhang overhang nothing
  have spares := not_paints_string overhang strings plain whole beside painted
  have paintsAlike := overhang.exists_paints_iff spares alike
  refine resumes_of_overhang overhang spares ?_
  obtain ⟨gap, rest, split, unquoted, rfl⟩ := exists_body_of_string overhang strings plain nothing
  have plainRest : '\\' ∉ rest := by
    intro inRest
    have inBody : '\\' ∈ region.body text := by
      rw [split]
      exact List.mem_append_right _ (List.mem_cons_of_mem _ inRest)
    exact plain (List.mem_of_mem_drop (List.mem_of_mem_take inBody))
  have passed : Pattern.string.matchesFrom region.start (gap.length + 1) (region.before text)
      (gap ++ '"' :: rest) =
        Pattern.string.matchesFrom (region.start + gap.length + 1) 0 none rest := by
    have behind := Pattern.string.matchesFrom_length_append region.start (region.before text)
      (gap ++ ['"']) rest
    rw [List.append_assoc, List.length_append] at behind
    exact behind.trans (Pattern.matchesFrom_string_before _ _ _ _ _)
  rw [strings, split, passed,
    Pattern.matchesFrom_string_before region.start 0 (region.before text) none] at paintsAlike ⊢
  exact mem_matchesFrom_string_iff whole unquoted plainRest region.start paintsAlike

end Seam

end TurtleEdit
