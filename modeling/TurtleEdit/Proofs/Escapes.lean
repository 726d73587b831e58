import TurtleEdit.Proofs.LongStrings

/-!
Where the pattern and the pairing agree on what a long string is.

The pattern reads escapes: a backslash takes the next character with it, and may not take a line
feed. The pairing takes every triple quote, escaped or not. So the two part ways where an escape
reaches into the delimiter that the pairing closes a string with, and where a line ends in a
backslash inside a string. Nowhere else: they agree exactly if, in every long string of the pairing,
the escapes come out even before its closing delimiter. One string may break this rule, the last one
of a text that ends with it, because the pattern runs an unclosed string to the end of the text and
the pairing stops there as well.
-/

namespace TurtleEdit

/-! ## Escapes -/

/-- Every backslash takes a character with it, and none a line feed. -/
def escapesWhole : Text → Bool
  | '\\' :: c :: rest => c != '\n' && escapesWhole rest
  | ['\\'] => false
  | _ :: rest => escapesWhole rest
  | [] => true

theorem escapesWhole_escape (c : Char) (rest : Text) :
    escapesWhole ('\\' :: c :: rest) = (c != '\n' && escapesWhole rest) := by
  rw [escapesWhole]

theorem escapesWhole_cons {c : Char} (other : c ≠ '\\') (rest : Text) :
    escapesWhole (c :: rest) = escapesWhole rest :=
  escapesWhole.eq_3 _ _ (fun _ _ same _ => other same) (fun same _ => other same)

/-- A character that the pattern reads by itself is no backslash. -/
theorem ne_backslash {c : Char} {rest : Text}
    (noEscape : ∀ d after, c = '\\' → rest = d :: after → False)
    (noLast : c = '\\' → rest = [] → False) : c ≠ '\\' := by
  rintro rfl
  cases rest with
  | nil => exact noLast rfl rfl
  | cons d after => exact noEscape d after rfl rfl

/-! ## Reading to a triple quote -/

/-- The first triple quote of a text stands at `pos`. -/
structure FirstTriple (text : Text) (pos : Nat) : Prop where
  here : TripleAt text pos
  first : ∀ earlier, earlier < pos → ¬ TripleAt text earlier

theorem not_tripleAt_nil (pos : Nat) : ¬ TripleAt [] pos := by
  rintro ⟨after, same⟩
  simp at same

theorem FirstTriple.tail {c : Char} {rest : Text} {pos : Nat}
    (triple : FirstTriple (c :: rest) (pos + 1)) : FirstTriple rest pos :=
  ⟨triple.here, fun earlier before => triple.first (earlier + 1) (Nat.succ_lt_succ before)⟩

/-- Two quotes are read to the end only if they are the end. -/
theorem longStringBody_two_quotes {after : Text} :
    longStringBody ('"' :: '"' :: after) = some 2 ↔ after = [] := by
  refine ⟨fun body => ?_, fun nothing => by rw [nothing]; rfl⟩
  cases after with
  | nil => rfl
  | cons c rest =>
    exfalso
    by_cases quote : c = '"'
    · subst quote
      rw [longStringBody] at body
      cases body
    · rw [longStringBody.eq_5 _ _ (by simp [quote]) (by simp) (by simp),
        longStringBody.eq_5 _ _ (by simp [quote]) (by simp) (by simp), Option.map_map] at body
      obtain ⟨n, tail, two⟩ := Option.map_eq_some_iff.mp body
      obtain rfl : n = 0 := Nat.succ.inj (Nat.succ.inj two)
      -- only the empty text is read by reading nothing
      unfold longStringBody at tail
      split at tail
      · contradiction
      · cases tail
      · split at tail
        · cases tail
        · obtain ⟨_, _, more⟩ := Option.map_eq_some_iff.mp tail
          cases more
      · cases tail
      · obtain ⟨_, _, more⟩ := Option.map_eq_some_iff.mp tail
        cases more

/-- The pattern reads up to the first triple quote and over it, if no escape reaches into it; or if
the text ends with it and its escapes come out even at the end. -/
theorem longStringBody_eq_of_firstTriple {text : Text} {pos : Nat}
    (triple : FirstTriple text pos) :
    longStringBody text = some (pos + 3) ↔
      escapesWhole (text.take pos) = true ∨
        text.length = pos + 3 ∧ escapesWhole text = true := by
  induction text using longStringBody.induct generalizing pos with
  | case1 => exact (not_tripleAt_nil pos triple.here).elim
  | case2 after =>
    obtain rfl : pos = 0 := Nat.eq_zero_of_not_pos fun later =>
      triple.first 0 later ⟨after, rfl⟩
    exact ⟨fun _ => Or.inl rfl, fun _ => rfl⟩
  | case3 rest =>
    -- neither of the first two characters is a quote
    rcases pos with _ | _ | pos
    · simpa [TripleAt] using triple.here
    · simpa [TripleAt] using triple.here
    · rw [longStringBody, List.take_succ_cons, List.take_succ_cons, escapesWhole_escape,
        escapesWhole_escape]
      simp
  | case4 c rest other ih =>
    have kept : (c != '\n') = true := by simpa using other
    rw [longStringBody, if_neg other, escapesWhole_escape, kept, Bool.true_and]
    rcases pos with _ | _ | pos
    · simpa [TripleAt] using triple.here
    · -- the escape takes the first of the three quotes
      obtain ⟨after, same⟩ := triple.here
      obtain ⟨rfl, rfl⟩ : '"' = c ∧ '"' :: '"' :: after = rest := by simpa using same
      have read : (longStringBody ('"' :: '"' :: after)).map (· + 2) = some (0 + 1 + 3) ↔
          longStringBody ('"' :: '"' :: after) = some 2 := by
        simp [Option.map_eq_some_iff]
      rw [read, longStringBody_two_quotes]
      cases after <;> simp [escapesWhole]
    · have read : (longStringBody rest).map (· + 2) = some (pos + 1 + 1 + 3) ↔
          longStringBody rest = some (pos + 3) := by
        simp [Option.map_eq_some_iff]
      have size : ('\\' :: c :: rest).length = pos + 1 + 1 + 3 ↔ rest.length = pos + 3 := by
        simp only [List.length_cons]
        omega
      rw [read, size, ih triple.tail.tail, List.take_succ_cons, List.take_succ_cons,
        escapesWhole_escape, kept, Bool.true_and]
  | case5 =>
    rcases pos with _ | pos
    · simpa [TripleAt] using triple.here
    · exact (not_tripleAt_nil pos triple.here).elim
  | case6 c rest noTriple noEscape noLast ih =>
    have other := ne_backslash noEscape noLast
    rcases pos with _ | pos
    · obtain ⟨after, same⟩ := triple.here
      obtain ⟨rfl, rfl⟩ : '"' = c ∧ '"' :: '"' :: after = rest := by simpa using same
      exact (noTriple after rfl rfl).elim
    · have read : (longStringBody rest).map (· + 1) = some (pos + 1 + 3) ↔
          longStringBody rest = some (pos + 3) := by
        simp [Option.map_eq_some_iff]
      have size : (c :: rest).length = pos + 1 + 3 ↔ rest.length = pos + 3 := by
        simp only [List.length_cons]
        omega
      rw [longStringBody.eq_5 _ _ noTriple noEscape noLast, read, size, ih triple.tail,
        List.take_succ_cons, escapesWhole_cons other, escapesWhole_cons other]

/-- Without a triple quote the pattern reads to the end, if the escapes come out even there. -/
theorem longStringBody_eq_length {text : Text} (none : ∀ pos, ¬ TripleAt text pos) :
    longStringBody text = some text.length ↔ escapesWhole text = true := by
  induction text using longStringBody.induct with
  | case1 => exact ⟨fun _ => rfl, fun _ => rfl⟩
  | case2 after => exact (none 0 ⟨after, rfl⟩).elim
  | case3 rest =>
    rw [longStringBody, if_pos rfl, escapesWhole_escape]
    simp
  | case4 c rest other ih =>
    have kept : (c != '\n') = true := by simpa using other
    rw [longStringBody, if_neg other, escapesWhole_escape, kept, Bool.true_and,
      ← ih fun pos => none (pos + 2)]
    simp
  | case5 =>
    constructor
    · intro read
      cases read
    · intro even
      cases even
  | case6 c rest noTriple noEscape noLast ih =>
    rw [longStringBody.eq_5 _ _ noTriple noEscape noLast,
      escapesWhole_cons (ne_backslash noEscape noLast), ← ih fun pos => none (pos + 1)]
    simp

/-! ## Long strings -/

/-- The first delimiter found is the first triple quote. -/
theorem firstTriple_of_head? {offset : Nat} {text : Text} {d : Nat}
    (found : (delimitersFrom offset text).head? = some d) :
    offset ≤ d ∧ FirstTriple text (d - offset) := by
  obtain ⟨later, split⟩ := List.head?_eq_some_iff.mp found
  have ordered := delimitersFrom_pairwise offset text
  rw [split, List.pairwise_cons] at ordered
  refine ⟨(delimitersFrom_bounds (List.mem_of_head? found)).1, ?_, fun earlier before triple => ?_⟩
  · exact (@of_delimitersFrom_eq_append offset text [] later d split).1
  · obtain ⟨e, member, low, high⟩ := exists_delimitersFrom_of_tripleAt offset text triple
    rw [split] at member
    rcases List.mem_cons.mp member with rfl | inLater
    · omega
    · have := ordered.1 e inLater
      omega

namespace LongString

/-- What stands between the delimiters of a long string, or after the only one. -/
def body (text : Text) (long : LongString) : Text :=
  match long.closer with
  | some closer => (text.drop (long.opener + 3)).take (closer - (long.opener + 3))
  | none => text.drop (long.opener + 3)

/-- The escapes of a long string come out even before its closing delimiter, or, if the text ends
with the string, at the end of the text. -/
def ReadsWhole (text : Text) (long : LongString) : Prop :=
  escapesWhole (long.body text) = true ∨
    long.stop text.length = text.length ∧ escapesWhole (text.drop (long.opener + 3)) = true

instance (text : Text) (long : LongString) : Decidable (long.ReadsWhole text) :=
  inferInstanceAs (Decidable (_ ∨ _))

/-- The pattern reads a long string of the pairing as far as the pairing does exactly if its escapes
come out even. -/
theorem longStringBody_iff_readsWhole {text : Text} {long : LongString} (member : long ∈ all text) :
    longStringBody (text.drop (long.opener + 3)) =
        some (long.stop text.length - (long.opener + 3)) ↔
      long.ReadsWhole text := by
  have closes := (opens_of_mem_all member).2
  have bounds := bounds_of_mem_all member
  rcases long with ⟨opener, _ | closer⟩
  · have none : ∀ pos, ¬ TripleAt (text.drop (opener + 3)) pos := fun pos triple => by
      obtain ⟨d, found, -⟩ := exists_delimitersFrom_of_tripleAt (opener + 3) _ triple
      rw [List.head?_eq_none_iff.mp closes.symm] at found
      cases found
    have read := longStringBody_eq_length none
    rw [List.length_drop] at read
    simp only [ReadsWhole, stop, body]
    rw [read]
    simp
  · obtain ⟨low, triple⟩ := firstTriple_of_head? closes.symm
    dsimp only at low triple
    have read := longStringBody_eq_of_firstTriple triple
    have stops : closer + 3 - (opener + 3) = closer - (opener + 3) + 3 := by omega
    have size : (text.drop (opener + 3)).length = closer - (opener + 3) + 3 ↔
        closer + 3 = text.length := by
      simp only [stop] at bounds
      rw [List.length_drop]
      omega
    simp only [ReadsWhole, stop, body]
    rw [stops, read, size]

end LongString

instance (text : Text) : Decidable (LongStringsAgree text) :=
  inferInstanceAs (Decidable (_ = _))

/-- The pattern and the pairing agree on the long strings of a text exactly if in each of them the
escapes come out even. -/
theorem longStringsAgree_iff_readsWhole (text : Text) :
    LongStringsAgree text ↔ ∀ long ∈ LongString.all text, long.ReadsWhole text := by
  constructor
  · intro agree long member
    rw [← LongString.longStringBody_iff_readsWhole member]
    have inText : long.toMatch text.length ∈ Pattern.longString.matchesIn none text := by
      rw [agree]
      exact List.mem_map_of_mem member
    obtain ⟨hit, here, placed⟩ :=
      (Pattern.isScan_matchesIn Pattern.consumes_longString none text).hits _ inText
    obtain ⟨rest, n, starts, body, rfl⟩ := Pattern.hit_longString_iff.mp here
    have opens := (LongString.opens_of_mem_all member).1
    have stops : long.stop text.length = long.opener + (n + 3) := congrArg Match.stop placed
    have same : text.drop (long.opener + 3) = rest := by
      have tails := opens.symm.trans starts
      simpa using tails
    rw [same, body, stops]
    congr 1
    omega
  · intro whole
    refine longStringsAgree_of_hits fun long member before => ?_
    have bounds := LongString.bounds_of_mem_all member
    refine Pattern.hit_longString_iff.mpr ⟨_, _, (LongString.opens_of_mem_all member).1,
      (LongString.longStringBody_iff_readsWhole member).mpr (whole long member), ?_⟩
    congr 1
    omega

/-- An escaped quote before two more: the pattern reads one long string to the end of the text,
while the pairing closes it at the escaped quote and opens a second one. -/
theorem longStrings_disagree_on_escaped_quote :
    let text := "\"\"\"a\\\"\"\"b\"\"\"".toList
    Pattern.longString.matchesIn none text = [⟨0, 12, none⟩] ∧
      (LongString.all text).map (LongString.toMatch text.length) =
        [⟨0, 8, none⟩, ⟨9, 12, none⟩] ∧
      ¬ LongStringsAgree text := by
  intro text
  exact ⟨by decide, by decide, by decide⟩

end TurtleEdit
