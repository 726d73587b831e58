import TurtleEdit.Highlight.Pattern

/-!
What one match reads of the text that follows its place.

A match lies in the text. And but for long strings, the standard patterns stop at the end of the
line: a line feed after a text decides nothing that the end of the text does not decide in the same
way, whatever comes after it. One pattern needs care. Between the word that declares a namespace
and the namespace there may be any blanks, so a text that ends with that word and blanks is not
finished, and a line feed after it does not end the match.
-/

namespace TurtleEdit

/-! ## Lengths -/

theorem runLength_add_length_dropWhile (inClass : Char → Bool) (text : Text) :
    runLength inClass text + (text.dropWhile inClass).length = text.length := by
  rw [runLength, ← List.length_append, List.takeWhile_append_dropWhile]

theorem runLength_le (inClass : Char → Bool) (text : Text) :
    runLength inClass text ≤ text.length := by
  have sum := runLength_add_length_dropWhile inClass text
  omega

/-- A run that another character follows is shorter than its text. -/
theorem runLength_lt_of_dropWhile {inClass : Char → Bool} {text : Text} {c : Char} {after : Text}
    (stops : text.dropWhile inClass = c :: after) : runLength inClass text < text.length := by
  have sum := runLength_add_length_dropWhile inClass text
  rw [stops, List.length_cons] at sum
  omega

theorem length_pos_of_head? {text : Text} {c : Char} (starts : text.head? = some c) :
    0 < text.length :=
  List.length_pos_of_mem (List.mem_of_head? starts)

theorem startsWith_iff {word : String} {text : Text} :
    startsWith word text = true ↔ word.toList <+: text :=
  List.isPrefixOf_iff_prefix

theorem length_le_of_startsWith {word : String} {text : Text}
    (starts : startsWith word text = true) : word.toList.length ≤ text.length :=
  (startsWith_iff.mp starts).length_le

/-- A namespace that is not empty starts with a letter, and a colon follows it. -/
theorem namespaceLength_cons_of_ne {c : Char} (other : c ≠ ':') (rest : Text) :
    namespaceLength (c :: rest) =
      if c.isAlpha && (rest.dropWhile isNamespaceChar).head?.any (· == ':') then
        some (runLength isNamespaceChar rest + 2)
      else none := by
  rw [namespaceLength.eq_2 _ _ other]
  cases c.isAlpha with
  | false => simp
  | true =>
    cases rest.dropWhile isNamespaceChar with
    | nil => simp
    | cons d after => by_cases colon : d = ':' <;> simp [colon]

/-- An iri runs to its closing bracket. -/
theorem iriLength_cons (rest : Text) :
    iriLength ('<' :: rest) =
      if (rest.dropWhile isIriChar).head?.any (· == '>') then
        some (runLength isIriChar rest + 2)
      else none := by
  rw [iriLength]
  cases rest.dropWhile isIriChar with
  | nil => simp
  | cons d after => by_cases closing : d = '>' <;> simp [closing]

theorem namespaceLength_bounds {text : Text} {n : Nat} (found : namespaceLength text = some n) :
    0 < n ∧ n ≤ text.length := by
  unfold namespaceLength at found
  split at found
  · cases found
    simp
  · next c rest _ =>
    split at found
    · split at found
      · next stops =>
        have shorter := runLength_lt_of_dropWhile stops
        cases found
        simp only [List.length_cons]
        omega
      · cases found
    · cases found
  · cases found

/-- A local part goes on with a name character, or with a full stop between two of them. -/
theorem localLengthFrom_cons (inRun : Bool) (c : Char) (rest : Text) :
    localLengthFrom inRun (c :: rest) =
      if isNameChar c then localLengthFrom true rest + 1
      else if inRun && c == '.' && rest.head?.any isNameChar then localLengthFrom false rest + 1
      else 0 := by
  refine (localLengthFrom.eq_def _ _).trans ?_
  dsimp only
  cases isNameChar c with
  | true => rfl
  | false =>
    cases inRun && c == '.' with
    | false => rfl
    | true => cases rest <;> rfl

/-- Subtags go on with a letter or digit, or with a hyphen before one. -/
theorem subtagsLength_cons (inRun : Bool) (c : Char) (rest : Text) :
    subtagsLength inRun (c :: rest) =
      if inRun && c.isAlphanum then subtagsLength true rest + 1
      else if c == '-' && rest.head?.any Char.isAlphanum then subtagsLength true rest + 1
      else 0 := by
  refine (subtagsLength.eq_def _ _).trans ?_
  dsimp only
  cases inRun && c.isAlphanum with
  | true => rfl
  | false =>
    cases c == '-' with
    | false => rfl
    | true => cases rest <;> rfl

theorem localLengthFrom_le (inRun : Bool) (text : Text) :
    localLengthFrom inRun text ≤ text.length := by
  induction text generalizing inRun with
  | nil => exact Nat.le_refl _
  | cons c rest ih =>
    rw [localLengthFrom_cons, List.length_cons]
    split
    · exact Nat.succ_le_succ (ih true)
    · split
      · exact Nat.succ_le_succ (ih false)
      · exact Nat.zero_le _

theorem subtagsLength_le (inRun : Bool) (text : Text) :
    subtagsLength inRun text ≤ text.length := by
  induction text generalizing inRun with
  | nil => exact Nat.le_refl _
  | cons c rest ih =>
    rw [subtagsLength_cons, List.length_cons]
    split
    · exact Nat.succ_le_succ (ih true)
    · split
      · exact Nat.succ_le_succ (ih true)
      · exact Nat.zero_le _

theorem nameLength_bounds {text : Text} {n : Nat} (found : nameLength text = some n) :
    0 < n ∧ n ≤ text.length := by
  obtain ⟨k, namespaceFound, rfl⟩ := Option.map_eq_some_iff.mp found
  have bounds := namespaceLength_bounds namespaceFound
  have tail := localLengthFrom_le false (text.drop k)
  rw [List.length_drop] at tail
  rw [localLength]
  omega

theorem iriLength_bounds {text : Text} {n : Nat} (found : iriLength text = some n) :
    0 < n ∧ n ≤ text.length := by
  unfold iriLength at found
  split at found
  · next rest =>
    split at found
    · next stops =>
      have shorter := runLength_lt_of_dropWhile stops
      cases found
      simp only [List.length_cons]
      omega
    · cases found
  · cases found

theorem longStringBody_le {text : Text} {n : Nat} (found : longStringBody text = some n) :
    n ≤ text.length := by
  induction text using longStringBody.induct generalizing n with
  | case1 => cases found; exact Nat.le_refl _
  | case2 after => cases found; simp
  | case3 rest => rw [longStringBody, if_pos rfl] at found; cases found
  | case4 c rest other ih =>
    rw [longStringBody, if_neg other] at found
    obtain ⟨k, tail, rfl⟩ := Option.map_eq_some_iff.mp found
    have bound := ih tail
    simp only [List.length_cons]
    omega
  | case5 => cases found
  | case6 c rest noTriple noEscape noLast ih =>
    rw [longStringBody.eq_5 _ _ noTriple noEscape noLast] at found
    obtain ⟨k, tail, rfl⟩ := Option.map_eq_some_iff.mp found
    have bound := ih tail
    simp only [List.length_cons]
    omega

theorem stringBody_le {text : Text} {n : Nat} (found : stringBody text = some n) :
    n ≤ text.length := by
  induction text using stringBody.induct generalizing n with
  | case1 => cases found
  | case2 after => cases found; simp
  | case3 rest => rw [stringBody, if_pos rfl] at found; cases found
  | case4 c rest other ih =>
    rw [stringBody, if_neg other] at found
    obtain ⟨k, tail, rfl⟩ := Option.map_eq_some_iff.mp found
    have bound := ih tail
    simp only [List.length_cons]
    omega
  | case5 => cases found
  | case6 rest noQuote noEscape noLast =>
    rw [stringBody.eq_5 _ _ noQuote noEscape noLast, if_pos rfl] at found
    cases found
  | case7 c rest noQuote noEscape noLast other ih =>
    rw [stringBody.eq_5 _ _ noQuote noEscape noLast, if_neg other] at found
    obtain ⟨k, tail, rfl⟩ := Option.map_eq_some_iff.mp found
    have bound := ih tail
    simp only [List.length_cons]
    omega

/-- A match, and the part its group took, lie in `size` characters. -/
structure Hit.Within (size : Nat) (hit : Hit) : Prop where
  length_le : hit.length ≤ size
  group_le : ∀ part, hit.group = some part → part.1 ≤ part.2 ∧ part.2 ≤ hit.length

theorem Hit.whole_within {size n : Nat} (bound : n ≤ size) : (Hit.whole n).Within size :=
  ⟨bound, fun _ took => nomatch took⟩

theorem Hit.grouped_within {size n : Nat} (bound : n ≤ size) : (Hit.grouped n).Within size :=
  ⟨bound, fun _ took => by cases took; exact ⟨Nat.zero_le _, Nat.le_refl _⟩⟩

theorem Hit.after_within {size skip n : Nat} (bound : skip + n ≤ size) :
    (Hit.after skip n).Within size :=
  ⟨bound, fun _ took => by cases took; exact ⟨Nat.le_add_right _ _, Nat.le_refl _⟩⟩

/-- Every match lies in the text that follows its place. -/
theorem Pattern.hit_within {pattern : Pattern} {before : Option Char} {text : Text} {hit : Hit}
    (found : pattern.hit before text = some hit) : hit.Within text.length := by
  cases pattern <;> simp only [Pattern.hit] at found
  case longString =>
    split at found
    case isFalse => cases found
    case isTrue starts =>
      obtain ⟨n, body, rfl⟩ := Option.map_eq_some_iff.mp found
      have size : 3 ≤ text.length := length_le_of_startsWith starts
      have bound := longStringBody_le body
      rw [List.length_drop] at bound
      exact Hit.whole_within (by omega)
  case string =>
    split at found
    case h_2 => cases found
    case h_1 rest =>
      obtain ⟨n, body, rfl⟩ := Option.map_eq_some_iff.mp found
      exact Hit.whole_within (Nat.succ_le_succ (stringBody_le body))
  case comment =>
    split at found
    case isFalse => cases found
    case isTrue => cases found; exact Hit.grouped_within (runLength_le _ _)
  case directive word =>
    split at found
    case isFalse => cases found
    case isTrue conditions =>
      simp only [Bool.and_eq_true] at conditions
      cases found
      rw [← String.length_toList]
      exact Hit.grouped_within (length_le_of_startsWith conditions.1.2)
  case declaredNamespace =>
    split at found
    case isFalse => cases found
    case isTrue starts =>
      split at found
      case isTrue => cases found
      case isFalse =>
        obtain ⟨n, body, rfl⟩ := Option.map_eq_some_iff.mp found
        have bounds := namespaceLength_bounds body
        rw [List.length_drop] at bounds
        exact Hit.after_within (by omega)
  case datatypeIri =>
    split at found
    case isFalse => cases found
    case isTrue starts =>
      obtain ⟨n, body, rfl⟩ := Option.map_eq_some_iff.mp found
      have bounds := iriLength_bounds body
      rw [List.length_drop] at bounds
      exact Hit.after_within (by omega)
  case datatypeName =>
    split at found
    case isFalse => cases found
    case isTrue starts =>
      obtain ⟨n, body, rfl⟩ := Option.map_eq_some_iff.mp found
      have bounds := nameLength_bounds body
      rw [List.length_drop] at bounds
      exact Hit.after_within (by omega)
  case language =>
    split at found
    case h_2 => cases found
    case h_1 rest =>
      split at found
      case isFalse => cases found
      case isTrue =>
        cases found
        have letters := runLength_le Char.isAlpha rest
        have tail := subtagsLength_le false (rest.drop (runLength Char.isAlpha rest))
        rw [List.length_drop] at tail
        exact Hit.grouped_within (by simp only [List.length_cons]; omega)
  case iri =>
    obtain ⟨n, body, rfl⟩ := Option.map_eq_some_iff.mp found
    exact Hit.whole_within (iriLength_bounds body).2
  case blankNode =>
    split at found
    case isFalse => cases found
    case isTrue starts =>
      split at found
      case isTrue => cases found
      case isFalse =>
        cases found
        have size : 2 ≤ text.length := length_le_of_startsWith starts
        have tail := localLengthFrom_le false (text.drop 2)
        rw [List.length_drop] at tail
        exact Hit.whole_within (by rw [localLength]; omega)
  case prefixedName =>
    split at found
    case isTrue => cases found
    case isFalse =>
      obtain ⟨n, body, rfl⟩ := Option.map_eq_some_iff.mp found
      exact Hit.whole_within (nameLength_bounds body).2
  case punctuation =>
    split at found
    case h_2 => cases found
    case h_1 c rest =>
      split at found
      case isFalse => cases found
      case isTrue => cases found; exact Hit.grouped_within (Nat.succ_le_succ (Nat.zero_le _))
  case single c =>
    split at found
    case isFalse => cases found
    case isTrue starts =>
      cases found
      exact Hit.whole_within (length_pos_of_head? starts)
  case run c => cases found; exact Hit.whole_within (runLength_le _ _)
  case either c d =>
    split at found
    case isTrue starts => cases found; exact Hit.grouped_within (length_pos_of_head? starts)
    case isFalse =>
      split at found
      case isFalse => cases found
      case isTrue starts => cases found; exact Hit.whole_within (length_pos_of_head? starts)
  case enclosed opening closing =>
    split at found
    case isFalse => cases found
    case isTrue starts =>
      split at found
      case h_2 => cases found
      case h_1 stops =>
        cases found
        have size := length_pos_of_head? starts
        have shorter := runLength_lt_of_dropWhile stops
        rw [List.length_drop] at shorter
        exact Hit.whole_within (by omega)
  case marked c =>
    split at found
    case isFalse => cases found
    case isTrue conditions =>
      cases found
      have size := length_pos_of_head? conditions.1
      have bound := runLength_le isWord (text.drop 1)
      rw [List.length_drop] at bound
      exact Hit.after_within (by omega)

end TurtleEdit
