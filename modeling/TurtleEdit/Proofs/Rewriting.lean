import TurtleEdit.Main
import TurtleEdit.Proofs.Preparing

/-!
What a command line does to files.

Main statements: a file that was indented in place passes a check, and indenting it again changes
nothing; a check passes exactly if indenting the file in place keeps its text; and a run that is not
asked to replace a file, or that fails, leaves all files as they are.
-/

namespace TurtleEdit

/-! ## Command lines -/

theorem runWords_of_asks (machine : Machine) {words : List String} {invocation : Invocation}
    (asks : Invocation.ofWords words = .ok invocation) (files : Files) :
    runWords machine files words = (Run.ofRequest machine invocation.request).outcome
      ⟨invocation.verbose, [], [], [], files⟩ := by
  rw [runWords, asks]

section Indent

variable (machine : Machine) {words : List String} {verbose : Bool} {request : IndentRequest}
  (asks : Invocation.ofWords words = .ok ⟨verbose, .indent request⟩)
  (plain : '[' ∉ request.file.toList)

include asks plain

theorem runWords_check (check : request.check = true) (files : Files) :
    (runWords machine files words).exitCode = 0 ↔
      ∃ config source, request.Yields machine verbose files config source ∧
        config.reindented machine.room source = source := by
  rw [runWords_of_asks machine asks]
  exact Run.exitCode_indent_check machine plain check _

theorem runWords_inPlace (check : request.check = false) (inPlace : request.inPlace = true)
    (files : Files) :
    ((runWords machine files words).exitCode = 0 ∧ ∃ config source,
        request.Yields machine verbose files config source ∧
        (runWords machine files words).session.files = files.write (Path.ofString request.file)
          (encodeUtf8 (config.reindented machine.room source))) ∨
      (runWords machine files words).exitCode ≠ 0 ∧
        (runWords machine files words).session.files = files ∧
        ∀ config source, ¬ request.Yields machine verbose files config source := by
  rw [runWords_of_asks machine asks]
  exact Run.indent_inPlace machine plain check inPlace _

/-- Where indenting a file in place comes to a result, it succeeds. -/
theorem runWords_inPlace_of_yields (check : request.check = false)
    (inPlace : request.inPlace = true) {files : Files} {config : Config} {source : Text}
    (yields : request.Yields machine verbose files config source) :
    (runWords machine files words).exitCode = 0 ∧
      (runWords machine files words).session.files = files.write (Path.ofString request.file)
        (encodeUtf8 (config.reindented machine.room source)) := by
  rcases runWords_inPlace machine asks plain check inPlace files with
    ⟨succeeds, _, _, also, writes⟩ | ⟨-, -, none⟩
  · obtain ⟨rfl, rfl⟩ := yields.unique also
    exact ⟨succeeds, writes⟩
  · exact absurd yields (none config source)

end Indent

section Modes

variable (machine : Machine) {files : Files} {words checkWords : List String} {verbose : Bool}
  {file : String} {indentWidth : Option Int} {config : Option String}

/-- Indenting a file in place is done once and for all. Where it succeeds, a check with the same
options passes afterwards, and indenting the file in place again succeeds and leaves every file as
it is. -/
theorem runWords_inPlace_again
    (asks : Invocation.ofWords words =
      .ok ⟨verbose, .indent { file, indentWidth, config, check := false, inPlace := true }⟩)
    (asksCheck : Invocation.ofWords checkWords =
      .ok ⟨verbose, .indent { file, indentWidth, config, check := true, inPlace := false }⟩)
    (plain : '[' ∉ file.toList)
    (apart : ∀ path, config = some path →
      files.locate (Path.ofString path) ≠ files.locate (Path.ofString file))
    (succeeds : (runWords machine files words).exitCode = 0) :
    let after := (runWords machine files words).session.files
    (runWords machine after checkWords).exitCode = 0 ∧ (runWords machine after words).exitCode = 0 ∧
      (runWords machine after words).session.files = after := by
  intro after
  rcases runWords_inPlace machine asks plain rfl rfl files with
    ⟨-, settings, source, yields, writes⟩ | ⟨fails, -, -⟩
  · obtain ⟨again, same⟩ := yields.again apart
    obtain ⟨names, bytes, decoded, here, -, -⟩ := yields.exists_locate
    have checked := again.inMode true false
    rw [← writes] at again checked
    obtain ⟨succeedsAgain, writesAgain⟩ :=
      runWords_inPlace_of_yields machine asks plain rfl rfl again
    refine ⟨(runWords_check machine asksCheck plain rfl after).mpr ⟨_, _, checked, same⟩,
      succeedsAgain, ?_⟩
    have unchanged :=
      Files.write_write_self here (encodeUtf8 (settings.reindented machine.room source))
    rw [← writes] at unchanged
    rw [writesAgain, same]
    exact unchanged
  · exact absurd succeeds fails

/-- A file with other line ends, a tab too many and blanks behind its last line feed, and a
configuration: in place the blanks go, so that the last line does, too. -/
theorem runWords_inPlace_again_blanks :
    let files : Files := ⟨[(["c.yaml"], .file (encodeUtf8 "indent_width: 2\n".toList)),
      (["a.ttl"], .file (encodeUtf8 "p:s\r\n\t\tp:q \"é\" .\n  \t".toList))]⟩
    let words := ["indent", "a.ttl", "--config=c.yaml", "--in-place"]
    let after := (runWords .host files words).session.files
    after.readText (Path.ofString "a.ttl") = .ok "p:s\n  p:q \"é\" .\n".toList ∧
      (runWords .host after ["indent", "a.ttl", "--config=c.yaml", "--check"]).exitCode = 0 ∧
      (runWords .host after words).exitCode = 0 ∧
      (runWords .host after words).session.files = after := by
  intro files words after
  have asks : Invocation.ofWords words = .ok ⟨false, .indent ⟨"a.ttl", none, some "c.yaml", false,
      true⟩⟩ := by decide +kernel
  have asksCheck : Invocation.ofWords ["indent", "a.ttl", "--config=c.yaml", "--check"] =
      .ok ⟨false, .indent ⟨"a.ttl", none, some "c.yaml", true, false⟩⟩ := by decide +kernel
  have apart : ∀ path, some "c.yaml" = some path →
      files.locate (Path.ofString path) ≠ files.locate (Path.ofString "a.ttl") := by
    rintro path ⟨⟩ same
    have names := congrArg (Except.map Prod.fst) same
    exact absurd names (by decide +kernel)
  exact ⟨by decide +kernel,
    runWords_inPlace_again .host asks asksCheck (by decide +kernel) apart (by decide +kernel)⟩

/-- A check passes exactly if indenting the file in place succeeds and leaves the file its text,
with line feeds as its line ends; and these are the bytes that the file has, if its text has no
carriage returns. -/
theorem runWords_check_iff_inPlace_keeps
    (asks : Invocation.ofWords words =
      .ok ⟨verbose, .indent { file, indentWidth, config, check := false, inPlace := true }⟩)
    (asksCheck : Invocation.ofWords checkWords =
      .ok ⟨verbose, .indent { file, indentWidth, config, check := true, inPlace := false }⟩)
    (plain : '[' ∉ file.toList) {bytes : ByteArray} {text : Text}
    (holds : files.read (Path.ofString file) = .ok bytes) (decodes : decodeUtf8 bytes = .ok text) :
    ((runWords machine files checkWords).exitCode = 0 ↔
        (runWords machine files words).exitCode = 0 ∧
          (runWords machine files words).session.files.read (Path.ofString file) =
            .ok (encodeUtf8 (unifyNewlines text))) ∧
      ('\r' ∉ text → encodeUtf8 (unifyNewlines text) = bytes) := by
  refine ⟨?_, fun plainText => ?_⟩
  · rw [runWords_check machine asksCheck plain rfl files]
    constructor
    · rintro ⟨settings, source, yields, same⟩
      obtain ⟨succeeds, writes⟩ :=
        runWords_inPlace_of_yields machine asks plain rfl rfl (yields.inMode false true)
      refine ⟨succeeds, ?_⟩
      rw [writes, Files.read_write_self holds, same, yields.source_eq holds decodes]
    · rintro ⟨succeeds, keeps⟩
      rcases runWords_inPlace machine asks plain rfl rfl files with
        ⟨-, settings, source, yields, writes⟩ | ⟨fails, -, -⟩
      · rw [writes, Files.read_write_self holds] at keeps
        refine ⟨settings, source, yields.inMode true false, ?_⟩
        rw [encodeUtf8_injective (Except.ok.inj keeps), yields.source_eq holds decodes]
      · exact absurd succeeds fails
  · rw [unifyNewlines_of_not_mem plainText]
    exact encodeUtf8_of_decodeUtf8 decodes

/-- With levels of eight columns a tab is one level; of two lines, one ends with both characters. -/
theorem runWords_check_iff_inPlace_keeps_tab :
    let text := "p:s\r\n\tp:q \"é\" .\n".toList
    let files : Files := ⟨[(["a.ttl"], .file (encodeUtf8 text))]⟩
    let words := ["indent", "a.ttl", "-w", "8", "--in-place"]
    (runWords .host files ["indent", "a.ttl", "-w", "8", "--check"]).exitCode = 0 ∧
      (runWords .host files words).exitCode = 0 ∧
      (runWords .host files words).session.files.read (Path.ofString "a.ttl") =
        .ok (encodeUtf8 (unifyNewlines text)) := by
  intro text files words
  have asks : Invocation.ofWords words =
      .ok ⟨false, .indent ⟨"a.ttl", some 8, none, false, true⟩⟩ := by decide +kernel
  have asksCheck : Invocation.ofWords ["indent", "a.ttl", "-w", "8", "--check"] =
      .ok ⟨false, .indent ⟨"a.ttl", some 8, none, true, false⟩⟩ := by decide +kernel
  have passes : (runWords .host files ["indent", "a.ttl", "-w", "8", "--check"]).exitCode = 0 := by
    decide +kernel
  have holds : files.read (Path.ofString "a.ttl") = .ok (encodeUtf8 text) := by decide +kernel
  have agrees := runWords_check_iff_inPlace_keeps .host asks asksCheck (by decide +kernel) holds
    (decodeUtf8_encodeUtf8 text)
  exact ⟨passes, agrees.1.mp passes⟩

/-- A file with a carriage return before its line feed passes the check, and is not left as it is
when it is indented in place. -/
theorem runWords_check_passes_inPlace_changes :
    let files : Files := ⟨[(["a.ttl"], .file (encodeUtf8 "a:b .\r\n".toList))]⟩
    let after := (runWords .host files ["indent", "a.ttl", "--in-place"]).session.files
    (runWords .host files ["indent", "a.ttl", "--check"]).exitCode = 0 ∧
      files.read (Path.ofString "a.ttl") = .ok (encodeUtf8 "a:b .\r\n".toList) ∧
      after.read (Path.ofString "a.ttl") = .ok (encodeUtf8 "a:b .\n".toList) ∧
      encodeUtf8 "a:b .\n".toList ≠ encodeUtf8 "a:b .\r\n".toList := by
  decide +kernel

end Modes

/-! ## Which files are written -/

/-- The words of a command line ask to indent a file in place, and not only to check it. -/
def AsksToReplace (words : List String) (verbose : Bool) (request : IndentRequest) : Prop :=
  Invocation.ofWords words = .ok ⟨verbose, .indent request⟩ ∧ request.check = false ∧
    request.inPlace = true

/-- A run that is not asked to replace a file leaves all files as they are. -/
theorem runWords_files_of_not_asked (machine : Machine) (files : Files) {words : List String}
    (unasked : ¬ ∃ verbose request, AsksToReplace words verbose request) :
    (runWords machine files words).session.files = files := by
  cases asked : Invocation.ofWords words with
  | error refusal =>
    rw [runWords, asked]
    cases refusal with
    | usage error => rfl
    | nulInPath verbose => rfl
  | ok invocation =>
    obtain ⟨verbose, wanted⟩ := invocation
    rw [runWords_of_asks machine asked]
    refine (Run.quiet_ofRequest machine ?_).outcome_files _
    rintro request rfl
    cases check : request.check with
    | true => exact Or.inl rfl
    | false =>
      cases inPlace : request.inPlace with
      | true => exact absurd ⟨verbose, request, asked, check, inPlace⟩ unasked
      | false => exact Or.inr rfl

/-- A run replaces the file that it is asked to replace, or no file. -/
theorem runWords_files (machine : Machine) (files : Files) {words : List String}
    (plain : ∀ path ∈ namedPaths words, '[' ∉ path.toList) :
    (∃ verbose request config source, AsksToReplace words verbose request ∧
        (runWords machine files words).exitCode = 0 ∧
        request.Yields machine verbose files config source ∧
        (runWords machine files words).session.files = files.write (Path.ofString request.file)
          (encodeUtf8 (config.reindented machine.room source))) ∨
      (¬ ∃ verbose request, AsksToReplace words verbose request ∧
        (runWords machine files words).exitCode = 0) ∧
        (runWords machine files words).session.files = files := by
  by_cases asked : ∃ verbose request, AsksToReplace words verbose request
  · obtain ⟨verbose, request, asks, check, inPlace⟩ := asked
    have plainFile : '[' ∉ request.file.toList := by
      refine plain request.file ?_
      rw [namedPaths, asks]
      exact List.mem_cons_self
    rcases runWords_inPlace machine asks plainFile check inPlace files with
      ⟨succeeds, config, source, yields, writes⟩ | ⟨fails, kept, -⟩
    · exact Or.inl ⟨verbose, request, config, source, ⟨asks, check, inPlace⟩, succeeds, yields,
        writes⟩
    · exact Or.inr ⟨fun ⟨_, _, _, succeeds⟩ => fails succeeds, kept⟩
  · refine Or.inr ⟨?_, runWords_files_of_not_asked machine files asked⟩
    rintro ⟨verbose, request, asks, -⟩
    exact asked ⟨verbose, request, asks⟩

/-- The files after the file of a request was indented in place: it holds the bytes of its text with
every line where it belongs, and what other paths lead to is as it was. -/
structure IndentRequest.Replaced (machine : Machine) (request : IndentRequest)
    (files after : Files) (config : Config) (text : Text) : Prop where
  settings : Config.inForce machine.depths files request.config request.indentWidth = .ok config
  held : files.read (Path.ofString request.file) = .ok (encodeUtf8 text)
  places : ∃ columns, (config.placeAll machine.room (unifyNewlines text)).outcome = .ok columns
  holds : after.read (Path.ofString request.file) =
    .ok (encodeUtf8 (config.placeAll machine.room (unifyNewlines text)).buffer.text)
  others : ∀ other, files.locate other ≠ files.locate (Path.ofString request.file) →
    after.locate other = files.locate other

/-- A command line writes what it says, and nothing else. If it asks to indent a file in place, and
not only to check it, and exits with 0, then this file is replaced by its text with every line where
it belongs; if not, every file is left as it is. In particular all files are left as they are if the
words make no request, or the file that is to be indented has no text, or no settings are in
force. -/
theorem runWords_writes_only_replaced (machine : Machine) (files : Files) {words : List String}
    (plain : ∀ path ∈ namedPaths words, '[' ∉ path.toList) :
    let outcome := runWords machine files words
    ((∃ verbose request config text, AsksToReplace words verbose request ∧ outcome.exitCode = 0 ∧
          request.Replaced machine files outcome.session.files config text) ∨
        (¬ ∃ verbose request, AsksToReplace words verbose request ∧ outcome.exitCode = 0) ∧
          outcome.session.files = files) ∧
      ((∀ verbose request, Invocation.ofWords words = .ok ⟨verbose, .indent request⟩ →
          (∀ text, files.readText (Path.ofString request.file) ≠ .ok text) ∨
            ∀ config, Config.inForce machine.depths files request.config request.indentWidth ≠
              .ok config) →
        outcome.session.files = files) := by
  intro outcome
  rcases runWords_files machine files plain with
    ⟨verbose, request, config, source, asks, succeeds, yields, writes⟩ | ⟨unasked, kept⟩
  · refine ⟨Or.inl ⟨verbose, request, config, ?_⟩, fun refused => ?_⟩
    · obtain ⟨names, bytes, text, here, decodes, rfl⟩ := yields.exists_locate
      have held := Files.read_of_locate here
      refine ⟨text, asks, succeeds, yields.settings, ?_, yields.places, ?_, fun other apart => ?_⟩
      · rw [held, encodeUtf8_of_decodeUtf8 decodes]
      · exact writes ▸ Files.read_write_self held _
      · exact writes ▸ Files.locate_write_of_ne here _ apart
    · rcases refused verbose request asks.1 with noText | noSettings
      · exact absurd yields.reads (noText source)
      · exact absurd yields.settings (noSettings config)
  · exact ⟨Or.inr ⟨unasked, kept⟩, fun _ => kept⟩

/-- A file reached by a detour, beside a configuration and another file of the same name. -/
theorem runWords_writes_only_replaced_detour :
    let files : Files := ⟨[(["d"], .directory),
      (["d", "a.ttl"], .file (encodeUtf8 "p:s\n p:q [\n".toList)),
      (["a.ttl"], .file (encodeUtf8 "p:s\n p:q [\r\n p:r \"é\"".toList))]⟩
    let words := ["-v", "indent", "d/../a.ttl", "--in-place", "-w2"]
    let after := (runWords .host files words).session.files
    AsksToReplace words true ⟨"d/../a.ttl", some 2, none, false, true⟩ ∧
      (∀ path ∈ namedPaths words, '[' ∉ path.toList) ∧
      (runWords .host files words).exitCode = 0 ∧
      after.read (Path.ofString "a.ttl") =
        .ok (encodeUtf8 "p:s\n  p:q [\n    p:r \"é\"".toList) ∧
      after.locate (Path.ofString "d/a.ttl") = files.locate (Path.ofString "d/a.ttl") := by
  intro files words after
  have asks : AsksToReplace words true ⟨"d/../a.ttl", some 2, none, false, true⟩ :=
    ⟨by decide +kernel, rfl, rfl⟩
  have plain : ∀ path ∈ namedPaths words, '[' ∉ path.toList := by decide +kernel
  have succeeds : (runWords .host files words).exitCode = 0 := by decide +kernel
  refine ⟨asks, plain, succeeds, by decide +kernel, ?_⟩
  rcases (runWords_writes_only_replaced .host files plain).1 with
    ⟨verbose, request, config, text, ⟨also, -⟩, -, replaced⟩ | ⟨unasked, -⟩
  · cases asks.1.symm.trans also
    refine replaced.others _ fun same => ?_
    have names := congrArg (Except.map Prod.fst) same
    exact absurd names (by decide +kernel)
  · exact absurd ⟨_, _, asks, succeeds⟩ unasked

end TurtleEdit
