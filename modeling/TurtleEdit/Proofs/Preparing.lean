import TurtleEdit.Proofs.Settings
import TurtleEdit.Proofs.Storing

/-!
What indenting a file comes to, and the ways to use the result.

Indenting a file reads first: settings, source and the places of its lines. What this comes to is
the same whether the result is then compared with the source, put in its place or listed, so it is
said once, by `IndentRequest.Yields`. Of the three ways to use the result only the second writes,
and it does so after everything that can fail. A result that stands in the place of its source is
its own result.
-/

namespace TurtleEdit

/-! ## Settings -/

namespace Config

variable {config : Config}

/-- In settings that are in force a tab has a width. -/
theorem tabWidth_of_inForce {depths : Depths} {files : Files} {path : Option String}
    {indentWidth : Option Int} (settings : inForce depths files path indentWidth = .ok config) :
    1 ≤ config.tabWidth := by
  obtain ⟨base, loads, changed⟩ := bind_eq_ok_iff.mp settings
  rw [mapError_eq_ok_iff] at changed
  cases indentWidth with
  | some width => exact (hasWidths_of_make (mapError_eq_ok_iff.mp changed)).tabWidth_pos
  | none =>
    cases changed
    cases path with
    | none =>
      cases loads
      decide
    | some path => exact (takesWidths_of_load loads).tabWidth_pos

/-- Settings are read off the file at the path of the configuration, if there is one. -/
theorem loaded_eq_of_locate (depths : Depths) {files after : Files} {path : Option String}
    (same : ∀ name, path = some name →
      after.locate (Path.ofString name) = files.locate (Path.ofString name)) :
    loaded depths after path = loaded depths files path ∧
      loadEvents depths after path = loadEvents depths files path := by
  cases path with
  | none => exact ⟨rfl, rfl⟩
  | some name =>
    have alike : load depths after name = load depths files name := by
      unfold load
      dsimp only
      rw [Files.readText_eq_of_locate (same name rfl)]
    exact ⟨congrArg Prod.fst alike, congrArg Prod.snd alike⟩

end Config

/-! ## Indenting a file -/

/-- Indenting a file comes to a result: the settings are in force, the file is read, and every line
has room where it belongs; and nothing on the way is left unsaid. -/
structure IndentRequest.Yields (machine : Machine) (request : IndentRequest) (verbose : Bool)
    (files : Files) (config : Config) (source : Text) : Prop where
  loads : Run.reported verbose (Config.loadEvents machine.depths files request.config) = .ok ()
  settings : Config.inForce machine.depths files request.config request.indentWidth = .ok config
  warns : Run.warned config request.file = .ok ()
  reads : files.readText (Path.ofString request.file) = .ok source
  reports : Run.reported verbose (config.placeAll machine.room source).events = .ok ()
  places : ∃ columns, (config.placeAll machine.room source).outcome = .ok columns

/-- The text with every line where it belongs. -/
def Config.reindented (room : Room) (config : Config) (source : Text) : Text :=
  (config.placeAll room source).buffer.text

namespace IndentRequest

variable {machine : Machine} {request : IndentRequest} {verbose : Bool} {files : Files}
  {config : Config} {source : Text}

/-- The result does not depend on what is done with it. -/
theorem Yields.inMode (yields : request.Yields machine verbose files config source)
    (check inPlace : Bool) :
    { request with check, inPlace : IndentRequest }.Yields machine verbose files config source :=
  ⟨yields.loads, yields.settings, yields.warns, yields.reads, yields.reports, yields.places⟩

/-- There is one result. -/
theorem Yields.unique {other : Config} {text : Text}
    (yields : request.Yields machine verbose files config source)
    (also : request.Yields machine verbose files other text) : other = config ∧ text = source :=
  ⟨Except.ok.inj (also.settings.symm.trans yields.settings),
    Except.ok.inj (also.reads.symm.trans yields.reads)⟩

/-- The source is the text of a file, with its line ends as line feeds. -/
theorem Yields.exists_locate (yields : request.Yields machine verbose files config source) :
    ∃ names bytes decoded, files.locate (Path.ofString request.file) = .ok (names, .file bytes) ∧
      decodeUtf8 bytes = .ok decoded ∧ source = unifyNewlines decoded := by
  obtain ⟨bytes, decoded, -, holds, decodes, unified⟩ :=
    Files.exists_read_of_readText yields.reads
  obtain ⟨names, here⟩ := Files.exists_locate_of_read holds
  exact ⟨names, bytes, decoded, here, decodes, unified⟩

theorem Yields.source_eq (yields : request.Yields machine verbose files config source)
    {bytes : ByteArray} {text : Text} (holds : files.read (Path.ofString request.file) = .ok bytes)
    (decodes : decodeUtf8 bytes = .ok text) : source = unifyNewlines text := by
  obtain ⟨names, held, decoded, here, decodesHeld, unified⟩ := yields.exists_locate
  obtain rfl : held = bytes := Except.ok.inj ((Files.read_of_locate here).symm.trans holds)
  obtain rfl : decoded = text := Except.ok.inj (decodesHeld.symm.trans decodes)
  exact unified

/-- Once the result stands in the place of the source, it is the source and the result. -/
theorem Yields.again (yields : request.Yields machine verbose files config source)
    (apart : ∀ path, request.config = some path →
      files.locate (Path.ofString path) ≠ files.locate (Path.ofString request.file)) :
    let result := config.reindented machine.room source
    request.Yields machine verbose
        (files.write (Path.ofString request.file) (encodeUtf8 result)) config result ∧
      config.reindented machine.room result = result := by
  intro result
  obtain ⟨names, bytes, decoded, here, -, unified⟩ := yields.exists_locate
  obtain ⟨columns, placed⟩ := yields.places
  obtain ⟨places, same, events⟩ :=
    Config.placeAll_text (Config.tabWidth_of_inForce yields.settings) placed
  have plain : '\r' ∉ result :=
    config.carriage_not_mem_placeAll machine.room (unified ▸ carriage_not_mem_unifyNewlines decoded)
  obtain ⟨loads, reported⟩ := Config.loaded_eq_of_locate machine.depths fun path asked =>
    Files.locate_write_of_ne here (encodeUtf8 result) (apart path asked)
  refine ⟨⟨?_, ?_, yields.warns, Files.readText_write_self yields.reads plain, ?_, places⟩, same⟩
  · rw [reported]
    exact yields.loads
  · rw [Config.inForce, loads]
    exact yields.settings
  · refine Run.reported_eq_ok_iff.mpr fun every event passed => ?_
    exact Run.reported_eq_ok_iff.mp yields.reports every event (events event passed)

end IndentRequest

namespace Run

/-- The source of a request and its text with every line where it belongs. -/
def prepare (machine : Machine) (request : IndentRequest) : Run (Text × Text) := do
  let config ← settings machine request.config request.indentWidth
  warnOfSuffix config request.file
  let source ← readSource request.file
  let indented ← reindent machine config source
  return (source, indented)

/-- What is done with the source and the result, as the request says. -/
def conclude (request : IndentRequest) (source indented : Text) : Run Unit := do
  if request.check then
    if indented = source then say .out "OK" (request.file ++ ": already indented")
    else
      say .out "NEEDS INDENTING" request.file
      throw (.exit 1)
  else if request.inPlace then
    writeSource request.file indented
    say .out "Indented" request.file
  else writeLines .out (listing screenWidth indented)

/-- Whatever is done with the result, it is found first. -/
theorem indent_eq (machine : Machine) (request : IndentRequest) :
    indent machine request =
      prepare machine request >>= fun found => conclude request found.1 found.2 := by
  unfold indent prepare
  simp only [bind_assoc, pure_bind]
  rfl

/-- The part that is the same for every way to use the result only reads, and finds the result that
there is. -/
theorem reads_prepare (machine : Machine) (request : IndentRequest) :
    ∃ result, Reads (prepare machine request) result ∧ ∀ verbose files source indented,
      result verbose files = .ok (source, indented) ↔
        ∃ config, request.Yields machine verbose files config source ∧
          indented = config.reindented machine.room source := by
  refine ⟨_, (reads_settings machine request.config request.indentWidth).bind fun config =>
    (reads_warnOfSuffix config request.file).bind fun _ =>
      (reads_readSource request.file).bind fun source =>
        (reads_reindent machine config source).bind fun indented =>
          Reads.pure (source, indented), ?_⟩
  intro verbose files source indented
  simp only [bind_eq_ok_iff, mapError_eq_ok_iff, map_eq_ok_iff]
  constructor
  · rintro ⟨config, ⟨_, loads, settings⟩, _, warns, text, readsText, result, ⟨_, reports, columns,
      places, rfl⟩, done⟩
    cases done
    exact ⟨config, ⟨loads, settings, warns, readsText, reports, columns, places⟩, rfl⟩
  · rintro ⟨config, ⟨loads, settings, warns, readsText, reports, columns, places⟩, rfl⟩
    exact ⟨config, ⟨(), loads, settings⟩, (), warns, source, readsText, _, ⟨(), reports, columns,
      places, rfl⟩, rfl⟩

/-! ## The ways to use the result -/

section Conclude

variable {request : IndentRequest} (plain : '[' ∉ request.file.toList)

include plain

/-- Comparing the result with the source passes if they are the same. -/
theorem reads_conclude_check (check : request.check = true) (source indented : Text) :
    Reads (conclude request source indented) fun _ _ =>
      if indented = source then .ok () else .error (.exit 1) := by
  unfold conclude
  rw [if_pos check]
  split
  · have plainMessage : '[' ∉ (request.file ++ ": already indented").toList := by
      rw [String.toList_append]
      intro member
      rcases List.mem_append.mp member with inFile | inWords
      · exact plain inFile
      · exact absurd inWords (by decide)
    exact reads_say_plain _ _ plainMessage
  · exact (reads_say_plain .out "NEEDS INDENTING" plain).bind fun _ =>
      Reads.throw fun same : Stop.exit 1 = .exit 0 => nomatch same

/-- Putting the result in place of the source replaces the bytes of the file, and does not fail. -/
theorem outcome_conclude_inPlace (check : request.check = false) (inPlace : request.inPlace = true)
    (source indented : Text) (session : Session) :
    ((conclude request source indented).outcome session).exitCode = 0 ∧
      ((conclude request source indented).outcome session).session.files =
        session.files.write (Path.ofString request.file) (encodeUtf8 indented) := by
  have tells := reads_say_plain .out "Indented" plain
  have writes : conclude request source indented =
      writeSource request.file indented >>= fun _ => say .out "Indented" request.file := by
    rw [conclude, check, inPlace]
    rfl
  have performs := @perform_bind_of_ok _ _ (writeSource request.file indented)
    (fun _ => say .out "Indented" request.file) session () rfl
  rw [writes, outcome_eq_of_perform_eq performs, outcome_of_perform_ok (tells.gives _)]
  exact ⟨rfl, tells.files _⟩

end Conclude

/-- Comparing and listing the result only read. -/
theorem quiet_indent (machine : Machine) {request : IndentRequest}
    (mode : request.check = true ∨ request.inPlace = false) : Quiet (indent machine request) := by
  rw [indent_eq]
  obtain ⟨result, reads, -⟩ := reads_prepare machine request
  refine Quiet.bind ⟨result, reads⟩ fun found => ?_
  unfold conclude
  split
  · split
    · exact ⟨_, reads_say _ _ _⟩
    · exact Quiet.bind ⟨_, reads_say _ _ _⟩ fun _ => ⟨_, Reads.throw fun same => nomatch same⟩
  · next unchecked =>
    rcases mode with check | listed
    · exact absurd check unchecked
    · rw [if_neg (by rw [listed]; exact Bool.false_ne_true)]
      exact ⟨_, reads_writeLines _ _⟩

/-- Every command but the one that indents a file in place only reads. -/
theorem quiet_ofRequest (machine : Machine) {request : Request}
    (reads : ∀ asked, request = .indent asked → asked.check = true ∨ asked.inPlace = false) :
    Quiet (ofRequest machine request) := by
  cases request with
  | help scope => exact ⟨_, reads_write .out scope.help.toList⟩
  | versionLine => exact ⟨_, reads_writeLines .out _⟩
  | settings path => exact quiet_showSettings machine path
  | indent asked => exact quiet_indent machine (reads asked rfl)
  | highlight asked => exact quiet_highlight asked

/-- A check passes exactly if indenting the file comes to a result, and the result is the source. -/
theorem exitCode_indent_check (machine : Machine) {request : IndentRequest}
    (plain : '[' ∉ request.file.toList) (check : request.check = true) (session : Session) :
    ((indent machine request).outcome session).exitCode = 0 ↔
      ∃ config source, request.Yields machine session.verbose session.files config source ∧
        config.reindented machine.room source = source := by
  obtain ⟨result, reads, found⟩ := reads_prepare machine request
  rw [indent_eq]
  rcases reads.outcome_bind (fun found => conclude request found.1 found.2) session with
    ⟨stop, stops, fails, -⟩ | ⟨⟨source, indented⟩, left, gives, -, goesOn⟩
  · refine ⟨fun passes => absurd passes fails, ?_⟩
    rintro ⟨config, source, yields, -⟩
    exact nomatch stops.symm.trans ((found _ _ _ _).mpr ⟨config, yields, rfl⟩)
  · rw [goesOn]
    have concludes := reads_conclude_check plain check source indented
    rw [concludes.exitCode_eq_zero_iff]
    obtain ⟨config, yields, rfl⟩ := (found _ _ _ _).mp gives
    constructor
    · intro passes
      split at passes
      · next same => exact ⟨config, source, yields, same⟩
      · cases passes
    · rintro ⟨other, text, also, same⟩
      obtain ⟨rfl, rfl⟩ := yields.unique also
      rw [if_pos same]

/-- Putting the result in place of the source either does so, or fails and changes no file. -/
theorem indent_inPlace (machine : Machine) {request : IndentRequest}
    (plain : '[' ∉ request.file.toList) (check : request.check = false)
    (inPlace : request.inPlace = true) (session : Session) :
    let outcome := (indent machine request).outcome session
    (outcome.exitCode = 0 ∧ ∃ config source,
        request.Yields machine session.verbose session.files config source ∧
        outcome.session.files = session.files.write (Path.ofString request.file)
          (encodeUtf8 (config.reindented machine.room source))) ∨
      outcome.exitCode ≠ 0 ∧ outcome.session.files = session.files ∧
        ∀ config source, ¬ request.Yields machine session.verbose session.files config source := by
  obtain ⟨result, reads, found⟩ := reads_prepare machine request
  rw [indent_eq]
  rcases reads.outcome_bind (fun found => conclude request found.1 found.2) session with
    ⟨stop, stops, fails, kept⟩ | ⟨⟨source, indented⟩, left, gives, same, goesOn⟩
  · refine Or.inr ⟨fails, kept, fun config source yields => ?_⟩
    exact nomatch stops.symm.trans ((found _ _ _ _).mpr ⟨config, yields, rfl⟩)
  · obtain ⟨config, yields, rfl⟩ := (found _ _ _ _).mp gives
    rw [goesOn, ← same]
    obtain ⟨exits, writes⟩ := outcome_conclude_inPlace plain check inPlace source
      (config.reindented machine.room source) left
    exact Or.inl ⟨exits, config, source, same ▸ yields, writes⟩

end Run

end TurtleEdit
