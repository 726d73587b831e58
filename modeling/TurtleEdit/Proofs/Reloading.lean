import TurtleEdit.Proofs.FixedPoint
import TurtleEdit.Proofs.Reindenting
import TurtleEdit.Proofs.Sessions

/-!
A text whose lines were placed needs no placing when it is read again.

Between the two a text stands: the lines are joined, and split once more. Nothing but the
indentation of the lines was changed, so no line holds a line feed and the split gives the lines
back, all but a last one: one that became empty is not seen again. Every line that is left has the
lines above it that it had, so it is settled, and placing it passes no event that was not passed
before.
-/

namespace TurtleEdit

/-! ## Splitting joined lines -/

theorem splitLines_of_not_mem {line : Text} (flat : '\n' ∉ line) : splitLines line = [line] := by
  induction line with
  | nil => rfl
  | cons c rest ih =>
    have other : c ≠ '\n' := fun same => flat (same ▸ List.mem_cons_self)
    rw [splitLines, splitAt, if_neg other, ← splitLines, ih (List.not_mem_of_not_mem_cons flat)]

theorem splitLines_append_cons {line : Text} (flat : '\n' ∉ line) (rest : Text) :
    splitLines (line ++ '\n' :: rest) = line :: splitLines rest := by
  induction line with
  | nil => rw [List.nil_append, splitLines, splitAt, if_pos rfl, ← splitLines]
  | cons c others ih =>
    have other : c ≠ '\n' := fun same => flat (same ▸ List.mem_cons_self)
    rw [List.cons_append, splitLines, splitAt, if_neg other, ← splitLines,
      ih (List.not_mem_of_not_mem_cons flat)]

/-- Joined lines are split at the places where they were joined. -/
theorem splitLines_joinLines {lines : List Text} (nonempty : lines ≠ [])
    (flat : ∀ line ∈ lines, '\n' ∉ line) : splitLines (joinLines lines) = lines := by
  induction lines with
  | nil => exact absurd rfl nonempty
  | cons line others ih =>
    have flatLine := flat line List.mem_cons_self
    cases others with
    | nil =>
      have alone : joinLines [line] = line := by simp [joinLines]
      rw [alone, splitLines_of_not_mem flatLine]
    | cons next later =>
      rw [joinLines_cons_cons, splitLines_append_cons flatLine,
        ih (List.cons_ne_nil _ _) fun line member => flat line (List.mem_cons_of_mem _ member)]

/-- A line feed at the end of a text makes one more line, an empty one. -/
theorem splitLines_append_feed (text : Text) :
    splitLines (text ++ ['\n']) = splitLines text ++ [[]] := by
  unfold splitLines
  induction text with
  | nil => rfl
  | cons c rest ih =>
    rw [List.cons_append, splitAt, splitAt, ih]
    split
    · rfl
    · cases pieces : splitAt '\n' rest with
      | nil => exact absurd pieces (splitAt_ne_nil _ _)
      | cons piece others => rfl

theorem mem_joinLines {c : Char} {lines : List Text} (member : c ∈ joinLines lines) :
    c = '\n' ∨ ∃ line ∈ lines, c ∈ line := by
  induction lines with
  | nil => simp [joinLines] at member
  | cons line others ih =>
    cases others with
    | nil =>
      rw [joinLines, List.intercalate_singleton] at member
      exact Or.inr ⟨line, List.mem_cons_self, member⟩
    | cons next later =>
      rw [joinLines_cons_cons] at member
      rcases List.mem_append.mp member with here | later
      · exact Or.inr ⟨line, List.mem_cons_self, here⟩
      · rcases List.mem_cons.mp later with feed | below
        · exact Or.inl feed
        · rcases ih below with feed | ⟨other, among, holds⟩
          · exact Or.inl feed
          · exact Or.inr ⟨other, List.mem_cons_of_mem _ among, holds⟩

/-- A line of a text holds characters of the text, and no line feed. -/
theorem splitLines_spec {text line : Text} (among : line ∈ splitLines text) :
    '\n' ∉ line ∧ ∀ c ∈ line, c ∈ text := by
  unfold splitLines at among
  induction text generalizing line with
  | nil =>
    rw [splitAt, List.mem_singleton] at among
    subst among
    exact ⟨List.not_mem_nil, fun c member => member⟩
  | cons c rest ih =>
    rw [splitAt] at among
    split at among
    · rcases List.mem_cons.mp among with rfl | below
      · exact ⟨List.not_mem_nil, List.forall_mem_nil _⟩
      · exact ⟨(ih below).1, fun c member => List.mem_cons_of_mem _ ((ih below).2 c member)⟩
    · next other =>
      cases pieces : splitAt '\n' rest with
      | nil => exact absurd pieces (splitAt_ne_nil _ _)
      | cons piece others =>
        rw [pieces] at among ih
        rcases List.mem_cons.mp among with rfl | below
        · obtain ⟨flat, held⟩ := ih List.mem_cons_self
          refine ⟨?_, fun d member => ?_⟩
          · intro member
            rcases List.mem_cons.mp member with feed | later
            · exact other feed.symm
            · exact flat later
          · rcases List.mem_cons.mp member with rfl | later
            · exact List.mem_cons_self
            · exact List.mem_cons_of_mem _ (held d later)
        · obtain ⟨flat, held⟩ := ih (List.mem_cons_of_mem _ below)
          exact ⟨flat, fun d member => List.mem_cons_of_mem _ (held d member)⟩

/-! ## What placing lines keeps -/

/-- A character that indents no line stands in a line behind its leading spaces and tabs. -/
theorem mem_unindented {c : Char} {line : Text} (solid : isIndent c = false) :
    c ∈ unindented line ↔ c ∈ line := by
  have split : c ∈ line ↔ c ∈ leading line ∨ c ∈ unindented line := by
    rw [← List.mem_append, leading_append_unindented]
  rw [split]
  constructor
  · exact Or.inr
  · rintro (inFront | behind)
    · have blank := indents_leading line c inFront
      rw [solid] at blank
      cases blank
    · exact behind

namespace Buffer

variable {buffer other third : Buffer}

/-- Two buffers differ in the indentation of their lines only. -/
structure Reindents (buffer other : Buffer) : Prop where
  rests : other.lines.map unindented = buffer.lines.map unindented
  tabWidth : other.tabWidth = buffer.tabWidth
  finalNewline : other.finalNewline = buffer.finalNewline
  room : other.room = buffer.room

namespace Reindents

theorem refl (buffer : Buffer) : Reindents buffer buffer := ⟨rfl, rfl, rfl, rfl⟩

theorem trans (one : Reindents buffer other) (two : Reindents other third) :
    Reindents buffer third where
  rests := two.rests.trans one.rests
  tabWidth := two.tabWidth.trans one.tabWidth
  finalNewline := two.finalNewline.trans one.finalNewline
  room := two.room.trans one.room

theorem lineCount (reindents : Reindents buffer other) : other.lineCount = buffer.lineCount := by
  have sizes := congrArg List.length reindents.rests
  rwa [List.length_map, List.length_map] at sizes

theorem exists_getElem? (reindents : Reindents buffer other) {n : Nat} {line : Text}
    (here : buffer.lines[n]? = some line) :
    ∃ moved, other.lines[n]? = some moved ∧ unindented moved = unindented line := by
  have rests := congrArg (·[n]?) reindents.rests
  rw [List.getElem?_map, List.getElem?_map, here, Option.map_some] at rests
  exact Option.map_eq_some_iff.mp rests

/-- No line gets a character that indents no line. -/
theorem not_mem (reindents : Reindents buffer other) {c : Char} (solid : isIndent c = false)
    (absent : ∀ line ∈ buffer.lines, c ∉ line) : ∀ line ∈ other.lines, c ∉ line := by
  intro line among member
  have rest : unindented line ∈ buffer.lines.map unindented := by
    rw [← reindents.rests]
    exact List.mem_map_of_mem among
  obtain ⟨old, amongOld, same⟩ := List.mem_map.mp rest
  rw [← mem_unindented solid, ← same, mem_unindented solid] at member
  exact absent old amongOld member

theorem replace {n : Nat} {line moved : Text} (here : buffer.lines[n]? = some line)
    (same : unindented moved = unindented line) : Reindents buffer (buffer.replace n moved) := by
  refine ⟨?_, rfl, rfl, rfl⟩
  obtain ⟨inside, rfl⟩ := List.getElem?_eq_some_iff.mp here
  rw [Buffer.replace, List.map_set, same, ← List.map_set, List.set_getElem_self]

end Reindents

theorem Respaces.reindents {α : Type} {n : Int} {edit : Edit α}
    (respaces : Respaces buffer n edit) : Reindents buffer edit.buffer := by
  cases respaces with
  | kept same => exact same ▸ Reindents.refl _
  | moved here left _ =>
    rw [left]
    exact .replace here ((indents_replicate _).unindented_append _)

end Buffer

namespace Buffer

variable {buffer : Buffer}

theorem tabWidth_ofText (text : Text) (tabWidth : Int) (room : Room) :
    (ofText text tabWidth room).tabWidth = tabWidth := by
  unfold ofText
  split <;> rfl

/-- The lines of a text hold characters of the text, and no line feed. -/
theorem lines_ofText_spec {text line : Text} {tabWidth : Int} {room : Room}
    (among : line ∈ (ofText text tabWidth room).lines) : '\n' ∉ line ∧ ∀ c ∈ line, c ∈ text := by
  unfold ofText at among
  split at among
  · obtain ⟨flat, held⟩ := splitLines_spec among
    exact ⟨flat, fun c member => List.dropLast_subset _ (held c member)⟩
  · exact splitLines_spec among

theorem lines_ofText_ne_nil (text : Text) (tabWidth : Int) (room : Room) :
    (ofText text tabWidth room).lines ≠ [] := by
  unfold ofText
  split <;> exact splitAt_ne_nil _ _

/-- A buffer's text has the lines of the buffer, or all but the last. -/
theorem lines_ofText_text (nonempty : buffer.lines ≠ [])
    (flat : ∀ line ∈ buffer.lines, '\n' ∉ line) (tabWidth : Int) (room : Room) :
    (ofText buffer.text tabWidth room).lines <+: buffer.lines := by
  have back := splitLines_joinLines nonempty flat
  unfold Buffer.text
  split
  · rw [ofText, List.getLast?_concat, if_pos rfl, List.dropLast_concat]
    exact ⟨[], by rw [List.append_nil, back]⟩
  · unfold ofText
    split
    · next feed =>
      -- the last line is empty, and its line feed is taken for the end of the line above
      refine ⟨[[]], ?_⟩
      rw [← splitLines_append_feed, List.dropLast_append_getLast? '\n' feed, back]
    · exact ⟨[], by rw [List.append_nil, back]⟩

end Buffer

namespace Indenter

variable {indenter : Indenter} {buffer other : Buffer} {n : Nat} {columns : List Int}

theorem reindents_indentLine (indenter : Indenter) (buffer : Buffer) (n : Int) :
    Buffer.Reindents buffer (indenter.indentLine buffer n).buffer :=
  (respaces_indentLine indenter buffer n).reindents

theorem reindents_indentFrom (indenter : Indenter) (buffer : Buffer) (n count : Nat) :
    Buffer.Reindents buffer (indenter.indentFrom buffer n count).buffer :=
  indentFrom_keeps Buffer.Reindents Buffer.Reindents.refl Buffer.Reindents.trans
    (fun buffer m _ _ => reindents_indentLine indenter buffer m) buffer

/-! ## What placing lines reports -/

/-- Where a line belongs, and the step that finds it, depend on the lines above it and not on its
indentation. -/
theorem infer_of_sameAbove (indenter : Indenter) {line moved : Text}
    (same : SameAbove n buffer other) (here : buffer.lines[n]? = some line)
    (there : other.lines[n]? = some moved) (alike : unindented moved = unindented line) :
    indenter.infer other n = indenter.infer buffer n := by
  unfold infer
  rw [Buffer.line_of_getElem? here, Buffer.line_of_getElem? there]
  cases n with
  | zero => rfl
  | succ n =>
    have inside : n + 1 < buffer.lineCount := (List.getElem?_eq_some_iff.mp here).1
    obtain ⟨above, up⟩ := Buffer.exists_getElem? (Nat.lt_of_succ_lt inside)
    have up' : other.lines[n]? = some above := (same.above n (Nat.lt_succ_self n)).trans up
    have items : afterItem other n = afterItem buffer n := by
      cases n with
      | zero => rfl
      | succ n =>
        have twoAbove := Nat.lt_of_succ_lt (Nat.lt_of_succ_lt inside)
        obtain ⟨first, before⟩ := Buffer.exists_getElem? twoAbove
        rw [afterItem_succ before, afterItem_succ ((same.above n (by omega)).trans before)]
    rw [pred_natCast_succ, Buffer.indentation_of_getElem? up, Buffer.indentation_of_getElem? up',
      Buffer.line_of_getElem? up, Buffer.line_of_getElem? up', same.tabWidth, items]
    simp only [bind, Except.bind, closesNode_of_unindented alike]

/-- The step that finds where line `n` belongs is worth a report. -/
def Reported (indenter : Indenter) (buffer : Buffer) (n : Nat) (event : Event) : Prop :=
  ∃ column, indenter.infer buffer n = .ok ⟨column, some event⟩

/-- Placing settled lines reports where they belong, and nothing else. -/
theorem SettledFrom.reported (settled : indenter.SettledFrom buffer n columns) {event : Event}
    (passed : event ∈ (indenter.indentFrom buffer n columns.length).events) :
    ∃ m, n ≤ m ∧ m < n + columns.length ∧ indenter.Reported buffer m event := by
  induction columns generalizing n with
  | nil => exact nomatch passed
  | cons column columns ih =>
    have first := settled 0 column rfl
    obtain ⟨kept, placed⟩ := first.indentLine
    obtain ⟨⟨found, infers⟩, stands⟩ := first
    rw [Nat.add_zero] at kept placed infers stands
    have below : indenter.SettledFrom buffer (n + 1) columns := fun i c found => by
      rw [Nat.add_right_comm]
      exact settled (i + 1) c found
    have events : (indenter.indentLine buffer n).events = found.toList := by
      rw [Indenter.indentLine, infers, stands]
      dsimp only
      rw [if_pos rfl]
    rw [List.length_cons, Indenter.indentFrom, placed] at passed
    dsimp only at passed
    rw [kept, events] at passed
    rcases List.mem_append.mp passed with here | later
    · refine ⟨n, Nat.le_refl n, by rw [List.length_cons]; omega, column, ?_⟩
      rw [infers, Option.mem_toList.mp here]
    · obtain ⟨m, low, high, reported⟩ := ih below later
      exact ⟨m, by omega, by rw [List.length_cons]; omega, reported⟩

theorem events_indentFrom_of_ok {column : Int}
    (placed : (indenter.indentLine buffer n).outcome = .ok column) (count : Nat) :
    (indenter.indentFrom buffer n (count + 1)).events =
      (indenter.indentLine buffer n).events ++
        (indenter.indentFrom (indenter.indentLine buffer n).buffer (n + 1) count).events := by
  rw [indentFrom, placed]

/-- Placing a line reports where it belongs. -/
theorem mem_events_indentLine {event : Event} (reported : indenter.Reported buffer n event) :
    event ∈ (indenter.indentLine buffer n).events := by
  obtain ⟨column, infers⟩ := reported
  rw [indentLine, infers]
  dsimp only
  split
  · exact List.mem_cons_self
  · split
    · exact List.mem_cons_self
    · exact List.mem_append_left _ List.mem_cons_self

/-- What the placed lines report once they stand was reported when they were placed. -/
theorem mem_events_indentFrom (tabs : 1 ≤ buffer.tabWidth) {count : Nat}
    (inside : ∀ i, i < count → n + i < buffer.lineCount)
    (done : (indenter.indentFrom buffer n count).outcome = .ok columns) {m : Nat} (low : n ≤ m)
    (high : m < n + count) {event : Event}
    (reported : indenter.Reported (indenter.indentFrom buffer n count).buffer m event) :
    event ∈ (indenter.indentFrom buffer n count).events := by
  induction count generalizing buffer n columns with
  | zero => omega
  | succ count ih =>
    cases placed : (indenter.indentLine buffer n).outcome with
    | error fault => exact nomatch (indentFrom_of_error placed count).2.symm.trans done
    | ok column =>
      rw [events_indentFrom_of_ok placed]
      by_cases first : m = n
      · subst first
        refine List.mem_append_left _ (mem_events_indentLine ?_)
        obtain ⟨line, here⟩ := Buffer.exists_getElem? (inside 0 (Nat.succ_pos count))
        obtain ⟨moved, there, alike⟩ :=
          (reindents_indentFrom indenter buffer m (count + 1)).exists_getElem? here
        rcases indentFrom_settles indenter tabs inside with
          ⟨_, _, -, -, stuck⟩ | ⟨_, -, -, same, -, -⟩
        · exact nomatch stuck.failed.symm.trans done
        · rwa [Reported, infer_of_sameAbove indenter same here there alike] at reported
      · have moves := reindents_indentLine indenter buffer n
        obtain ⟨left, outcome⟩ := indentFrom_of_ok placed rfl count
        rw [left] at reported
        cases below : (indenter.indentFrom (indenter.indentLine buffer n).buffer (n + 1)
            count).outcome with
        | error fault =>
          rw [outcome, below] at done
          cases done
        | ok later =>
          refine List.mem_append_right _ (ih ?_ ?_ below (by omega) (by omega) reported)
          · rw [moves.tabWidth]
            exact tabs
          · intro i before
            have := inside (i + 1) (Nat.succ_lt_succ before)
            rw [moves.lineCount]
            omega

/-! ## Reading lines again -/

/-- Where lines at the end are gone, settled lines stay settled. -/
theorem SettledFrom.of_sameAbove (tabs : 1 ≤ buffer.tabWidth)
    (settled : indenter.SettledFrom buffer 0 columns) (fewer : other.lineCount ≤ buffer.lineCount)
    (same : SameAbove other.lineCount buffer other) :
    indenter.SettledFrom other 0 (columns.take other.lineCount) := by
  intro i c found
  rw [List.getElem?_take] at found
  split at found
  · next before =>
    have here := settled i c found
    rw [Nat.zero_add] at here ⊢
    exact here.of_sameAbove tabs (Nat.lt_of_lt_of_le before fewer) (same.mono before)
  · cases found

/-- Where lines at the end of settled lines are gone, placing the lines that are left changes
nothing, and reports what there is to report of the lines as they were. -/
theorem SettledFrom.indentFrom_part (tabs : 1 ≤ buffer.tabWidth)
    (settled : indenter.SettledFrom buffer 0 columns) (size : columns.length = buffer.lineCount)
    (tabWidth : other.tabWidth = buffer.tabWidth) (part : other.lines <+: buffer.lines) :
    let again := indenter.indentFrom other 0 other.lineCount
    again.buffer = other ∧ (∃ found, again.outcome = .ok found) ∧
      ∀ event ∈ again.events, ∃ m, m < buffer.lineCount ∧ indenter.Reported buffer m event := by
  intro again
  obtain ⟨gone, joined⟩ := part
  have fewer : other.lineCount ≤ buffer.lineCount := by
    unfold Buffer.lineCount
    rw [← joined, List.length_append]
    exact Nat.le_add_right _ _
  have same : SameAbove other.lineCount buffer other := by
    refine ⟨tabWidth, fun m before => ?_⟩
    rw [← joined, List.getElem?_append_left before]
  have left := settled.of_sameAbove tabs fewer same
  have all : (columns.take other.lineCount).length = other.lineCount := by
    rw [List.length_take, size, Nat.min_eq_left fewer]
  obtain ⟨unchanged, done⟩ := left.indentFrom
  have reports := @left.reported
  rw [all] at unchanged done reports
  refine ⟨unchanged, ⟨_, done⟩, fun event passed => ?_⟩
  obtain ⟨m, -, high, reported⟩ := reports passed
  rw [Nat.zero_add] at high
  have inside := Nat.lt_of_lt_of_le high fewer
  obtain ⟨line, here⟩ := Buffer.exists_getElem? inside
  have there := (same.above m high).trans here
  have sameAbove := same.mono (Nat.le_of_lt high)
  rw [Reported, infer_of_sameAbove indenter sameAbove here there rfl] at reported
  exact ⟨m, inside, reported⟩

end Indenter

namespace Config

variable {config : Config} {room : Room} {source : Text} {columns : List Int}

theorem placeAll_eq (room : Room) (config : Config) (source : Text) :
    config.placeAll room source = (⟨config.indentWidth⟩ : Indenter).indentFrom
      (Buffer.ofText source config.tabWidth room) 0
        (Buffer.ofText source config.tabWidth room).lineCount :=
  rfl

/-- The lines of a text stay without line feeds when they are placed, and get no characters but
spaces and tabs. -/
theorem lines_placeAll_spec (room : Room) (config : Config) (source : Text) :
    let lines := (config.placeAll room source).buffer.lines
    lines ≠ [] ∧ (∀ line ∈ lines, '\n' ∉ line) ∧
      ∀ c, isIndent c = false → c ∉ source → ∀ line ∈ lines, c ∉ line := by
  intro lines
  have moves := Indenter.reindents_indentFrom ⟨config.indentWidth⟩
    (Buffer.ofText source config.tabWidth room) 0
    (Buffer.ofText source config.tabWidth room).lineCount
  rw [← placeAll_eq] at moves
  refine ⟨?_, ?_, fun c solid absent => ?_⟩
  · intro empty
    refine Buffer.lines_ofText_ne_nil source config.tabWidth room (List.length_eq_zero_iff.mp ?_)
    rw [← Buffer.lineCount, ← moves.lineCount, Buffer.lineCount]
    exact List.length_eq_zero_iff.mpr empty
  · exact moves.not_mem rfl fun line among => (Buffer.lines_ofText_spec among).1
  · exact moves.not_mem solid fun line among member =>
      absent ((Buffer.lines_ofText_spec among).2 c member)

/-- Placing all lines brings no carriage return into a text. -/
theorem carriage_not_mem_placeAll (room : Room) (config : Config) (plain : '\r' ∉ source) :
    '\r' ∉ (config.placeAll room source).buffer.text := by
  have absent := (lines_placeAll_spec room config source).2.2 '\r' rfl plain
  have joined : '\r' ∉ joinLines (config.placeAll room source).buffer.lines := by
    intro member
    rcases mem_joinLines member with feed | ⟨line, among, holds⟩
    · exact absurd feed (by decide)
    · exact absent line among holds
  unfold Buffer.text
  split
  · intro member
    rcases List.mem_append.mp member with here | feed
    · exact joined here
    · exact absurd feed (by decide)
  · exact joined

/-- A text whose lines were all placed is left as it is when it is read and its lines are placed
again, and no other steps are reported. -/
theorem placeAll_text (tabs : 1 ≤ config.tabWidth)
    (placed : (config.placeAll room source).outcome = .ok columns) :
    let text := (config.placeAll room source).buffer.text
    (∃ again, (config.placeAll room text).outcome = .ok again) ∧
      (config.placeAll room text).buffer.text = text ∧
      ∀ event ∈ (config.placeAll room text).events,
        event ∈ (config.placeAll room source).events := by
  intro text
  obtain ⟨nonempty, flat, -⟩ := lines_placeAll_spec room config source
  have part := Buffer.lines_ofText_text nonempty flat config.tabWidth room
  have tabs' : 1 ≤ (Buffer.ofText source config.tabWidth room).tabWidth := by
    rw [Buffer.tabWidth_ofText]
    exact tabs
  have inside : ∀ i, i < (Buffer.ofText source config.tabWidth room).lineCount →
      0 + i < (Buffer.ofText source config.tabWidth room).lineCount := fun i before => by omega
  rcases Indenter.indentFrom_settles ⟨config.indentWidth⟩ tabs' inside with
    ⟨_, _, -, -, stuck⟩ | ⟨others, done, size, same, kept, settled⟩
  · exact nomatch stuck.failed.symm.trans placed
  · have inPlace : ∀ m, m < (config.placeAll room source).buffer.lineCount → ∀ event,
        (⟨config.indentWidth⟩ : Indenter).Reported (config.placeAll room source).buffer m event →
        event ∈ (config.placeAll room source).events := by
      intro m before event reported
      rw [placeAll_eq, kept] at before
      exact Indenter.mem_events_indentFrom tabs' inside placed (Nat.zero_le m) (by omega) reported
    rw [← placeAll_eq] at settled same kept
    rw [← kept] at size
    have sameTabs : (Buffer.ofText text config.tabWidth room).tabWidth =
        (config.placeAll room source).buffer.tabWidth := by
      rw [same.tabWidth, Buffer.tabWidth_ofText, Buffer.tabWidth_ofText]
    obtain ⟨unchanged, again, events⟩ :=
      settled.indentFrom_part (same.tabWidth.symm ▸ tabs') size sameTabs part
    rw [← placeAll_eq] at unchanged again events
    refine ⟨again, ?_, fun event passed => ?_⟩
    · rw [unchanged, Buffer.text_ofText]
    · obtain ⟨m, before, reported⟩ := events event passed
      exact inPlace m before event reported

end Config

end TurtleEdit
