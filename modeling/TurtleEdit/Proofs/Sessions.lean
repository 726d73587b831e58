import Mathlib.Tactic.Choose
import TurtleEdit.Command.Run

/-!
Parts of a run that only read.

All parts of a run but one print, report and read files, and leave the files as they are. What such
a part comes to depends on the files and on whether every step is reported, and on nothing that was
printed before; if it stops the run, the exit code is not 0. This is kept by doing one such part
after the other, so it is shown once for each part and holds of every command but the one that
replaces a file.
-/

namespace TurtleEdit

/-! ## Messages -/

/-- Without an opening bracket there is no mark. -/
theorem markPieces_of_not_mem {text : Text} (plain : '[' ∉ text) (begun : Text) (slashes : Nat) :
    ∃ shown, markPieces begun slashes text = [.plain shown] := by
  induction text generalizing begun slashes with
  | nil => exact ⟨_, by rw [markPieces]⟩
  | cons c rest ih =>
    have other : c ≠ '[' := fun same => plain (same ▸ List.mem_cons_self)
    have plainRest := List.not_mem_of_not_mem_cons plain
    rw [markPieces]
    by_cases slash : c = '\\'
    · rw [if_pos slash]
      exact ih plainRest _ _
    · rw [if_neg slash, if_neg other]
      exact ih plainRest _ _

/-- A text without an opening bracket can be shown. -/
theorem exists_unmark_of_not_mem {text : Text} (plain : '[' ∉ text) :
    ∃ shown, unmark text = .ok shown := by
  obtain ⟨piece, pieces⟩ := markPieces_of_not_mem plain [] 0
  rw [unmark, pieces]
  exact ⟨_, rfl⟩

/-- The exit code of a run that stops. -/
def Stop.exitCode : Stop → Nat
  | exit code => code
  | escape _ => 1

/-- Why a run that stops is broken off, if it is. -/
def Stop.escape? : Stop → Option Escape
  | exit _ => none
  | escape reason => some reason

namespace Run

variable {α β : Type}

/-! ## Performing a part of a run -/

/-- What a part of a run gives, or why it stops, and the session that it leaves. -/
def perform (action : Run α) (session : Session) : Except Stop α × Session :=
  (ExceptT.run action).run session

theorem perform_bind_of_ok {action : Run α} {next : α → Run β} {session : Session} {value : α}
    (gives : (action.perform session).1 = .ok value) :
    (action >>= next).perform session = (next value).perform (action.perform session).2 := by
  unfold perform at gives ⊢
  rw [ExceptT.run_bind, StateT.run_bind]
  revert gives
  generalize (ExceptT.run action).run session = result
  obtain ⟨outcome, left⟩ := result
  rintro rfl
  rfl

theorem perform_bind_of_error {action : Run α} {next : α → Run β} {session : Session} {stop : Stop}
    (stops : (action.perform session).1 = .error stop) :
    (action >>= next).perform session = (.error stop, (action.perform session).2) := by
  unfold perform at stops ⊢
  rw [ExceptT.run_bind, StateT.run_bind]
  revert stops
  generalize (ExceptT.run action).run session = result
  obtain ⟨outcome, left⟩ := result
  rintro rfl
  rfl

theorem outcome_of_perform_ok {action : Run Unit} {session : Session}
    (gives : (action.perform session).1 = .ok ()) :
    action.outcome session = ⟨0, none, (action.perform session).2⟩ := by
  unfold perform at gives ⊢
  unfold outcome
  revert gives
  generalize (ExceptT.run action).run session = result
  obtain ⟨outcome, left⟩ := result
  rintro rfl
  rfl

theorem outcome_eq_of_perform_eq {action other : Run Unit} {session left : Session}
    (same : action.perform session = other.perform left) :
    action.outcome session = other.outcome left := by
  unfold perform at same
  unfold outcome
  rw [same]

theorem outcome_session (action : Run Unit) (session : Session) :
    (action.outcome session).session = (action.perform session).2 := by
  unfold outcome perform
  generalize (ExceptT.run action).run session = result
  obtain ⟨(_ | _) | _, left⟩ := result <;> rfl

theorem outcome_of_perform_error {action : Run Unit} {session : Session} {stop : Stop}
    (stops : (action.perform session).1 = .error stop) :
    action.outcome session = ⟨stop.exitCode, stop.escape?, (action.perform session).2⟩ := by
  unfold perform at stops ⊢
  unfold outcome
  revert stops
  generalize (ExceptT.run action).run session = result
  obtain ⟨outcome, left⟩ := result
  rintro rfl
  cases stop <;> rfl

/-- A run that stops for such a reason does not exit with 0. -/
theorem exitCode_of_perform_error {action : Run Unit} {session : Session} {stop : Stop}
    (stops : (action.perform session).1 = .error stop) (fails : stop ≠ .exit 0) :
    (action.outcome session).exitCode ≠ 0 := by
  rw [outcome_of_perform_error stops]
  cases stop with
  | exit code => exact fun zero => fails (congrArg Stop.exit zero)
  | escape reason => exact Nat.one_ne_zero

/-! ## Reading -/

/-- A part of a run that leaves the files and the manner of reporting as they are, and whose result
is decided by these two. If it stops, then not with exit code 0. -/
structure Reads (action : Run α) (result : Bool → Files → Except Stop α) : Prop where
  gives : ∀ session, (action.perform session).1 = result session.verbose session.files
  files : ∀ session, (action.perform session).2.files = session.files
  verbose : ∀ session, (action.perform session).2.verbose = session.verbose
  fails : ∀ verbose files stop, result verbose files = .error stop → stop ≠ .exit 0

namespace Reads

theorem pure (value : α) : Reads (Pure.pure value) fun _ _ => .ok value where
  gives _ := rfl
  files _ := rfl
  verbose _ := rfl
  fails _ _ _ stops := nomatch stops

theorem throw {stop : Stop} (fails : stop ≠ .exit 0) :
    Reads (MonadExcept.throw stop : Run α) fun _ _ => .error stop where
  gives _ := rfl
  files _ := rfl
  verbose _ := rfl
  fails _ _ _ stops := Except.error.inj stops ▸ fails

theorem escape (reason : Escape) :
    Reads (MonadExcept.throw (.escape reason) : Run α) fun _ _ => .error (.escape reason) :=
  throw Stop.noConfusion

theorem bind {action : Run α} {result : Bool → Files → Except Stop α} {next : α → Run β}
    {results : α → Bool → Files → Except Stop β} (first : Reads action result)
    (rest : ∀ value, Reads (next value) (results value)) :
    Reads (action >>= next) fun verbose files =>
      result verbose files >>= fun value => results value verbose files := by
  have step : ∀ session : Session,
      ((action >>= next).perform session).1 =
          (result session.verbose session.files >>= fun value =>
            results value session.verbose session.files) ∧
        ((action >>= next).perform session).2.files = session.files ∧
        ((action >>= next).perform session).2.verbose = session.verbose := by
    intro session
    have gives := first.gives session
    cases outcome : result session.verbose session.files with
    | error stop =>
      rw [outcome] at gives
      rw [perform_bind_of_error gives]
      exact ⟨rfl, first.files session, first.verbose session⟩
    | ok value =>
      rw [outcome] at gives
      have later := (rest value).gives (action.perform session).2
      rw [first.verbose, first.files] at later
      rw [perform_bind_of_ok gives, (rest value).files, (rest value).verbose]
      exact ⟨later, first.files session, first.verbose session⟩
  refine ⟨fun session => (step session).1, fun session => (step session).2.1,
    fun session => (step session).2.2, fun verbose files stop stops => ?_⟩
  cases outcome : result verbose files with
  | error earlier =>
    rw [outcome] at stops
    exact Except.error.inj stops ▸ first.fails _ _ _ outcome
  | ok value =>
    rw [outcome] at stops
    exact (rest value).fails _ _ _ stops

/-- A part that looks at the session sees the files and the manner of reporting. -/
theorem get_bind {next : Session → Run α} (results : Bool → Files → Bool → Files → Except Stop α)
    (rest : ∀ session : Session, Reads (next session) (results session.verbose session.files)) :
    Reads (MonadState.get >>= next) fun verbose files => results verbose files verbose files where
  gives session := (rest session).gives session
  files session := (rest session).files session
  verbose session := (rest session).verbose session
  fails verbose files := (rest ⟨verbose, [], [], [], files⟩).fails verbose files

/-- A part that changes what was printed or reported. -/
theorem modify {change : Session → Session}
    (files : ∀ session, (change session).files = session.files)
    (verbose : ∀ session, (change session).verbose = session.verbose) :
    Reads (modify change : Run PUnit) fun _ _ => .ok PUnit.unit where
  gives _ := rfl
  files := files
  verbose := verbose
  fails _ _ _ stops := nomatch stops

theorem of_eq {action : Run α} {result other : Bool → Files → Except Stop α}
    (reads : Reads action result)
    (same : ∀ verbose files, result verbose files = other verbose files) :
    Reads action other := by
  have equal : result = other := funext fun verbose => funext fun files => same verbose files
  exact equal ▸ reads

/-- A run that only reads exits with 0 exactly if it comes to its end. -/
theorem exitCode_eq_zero_iff {action : Run Unit} {result : Bool → Files → Except Stop Unit}
    (reads : Reads action result) (session : Session) :
    (action.outcome session).exitCode = 0 ↔ result session.verbose session.files = .ok () := by
  have gives := reads.gives session
  cases outcome : result session.verbose session.files with
  | error stop =>
    rw [outcome] at gives
    have fails := exitCode_of_perform_error gives (reads.fails _ _ _ outcome)
    exact ⟨fun zero => absurd zero fails, fun impossible => nomatch impossible⟩
  | ok value =>
    rw [outcome] at gives
    rw [outcome_of_perform_ok gives]
    exact ⟨fun _ => rfl, fun _ => rfl⟩

/-- A run that begins with such a part fails there, or goes on with the value that it gives. -/
theorem outcome_bind {action : Run α} {result : Bool → Files → Except Stop α}
    (reads : Reads action result) (next : α → Run Unit) (session : Session) :
    (∃ stop, result session.verbose session.files = .error stop ∧
        ((action >>= next).outcome session).exitCode ≠ 0 ∧
        ((action >>= next).outcome session).session.files = session.files) ∨
      ∃ value left, result session.verbose session.files = .ok value ∧
        left.files = session.files ∧
        (action >>= next).outcome session = (next value).outcome left := by
  have gives := reads.gives session
  cases outcome : result session.verbose session.files with
  | error stop =>
    rw [outcome] at gives
    have stops := @perform_bind_of_error _ _ _ next _ _ gives
    refine Or.inl ⟨stop, rfl, ?_, ?_⟩
    · exact exitCode_of_perform_error (congrArg Prod.fst stops) (reads.fails _ _ _ outcome)
    · rw [outcome_session, stops]
      exact reads.files session
  | ok value =>
    rw [outcome] at gives
    refine Or.inr ⟨value, (action.perform session).2, rfl, reads.files session, ?_⟩
    exact outcome_eq_of_perform_eq (perform_bind_of_ok gives)

end Reads

/-! ## Printing and reporting -/

theorem reads_write (stream : Stream) (text : Text) :
    Reads (write stream text) fun _ _ => .ok () := by
  cases stream with
  | out => exact Reads.modify (fun _ => rfl) fun _ => rfl
  | err => exact Reads.modify (fun _ => rfl) fun _ => rfl

theorem reads_writeLines (stream : Stream) (lines : List Text) :
    Reads (writeLines stream lines) fun _ _ => .ok () := reads_write stream _

/-- What a marked text shows, or why it cannot be shown. -/
def marked (text : String) : Except Stop Text :=
  match unmark text.toList with
  | .ok shown => .ok (showable shown)
  | .error fault => .error (.escape (.badMark fault))

theorem reads_shown (text : String) : Reads (shown text) fun _ _ => marked text := by
  unfold shown marked
  cases unmark text.toList with
  | ok text => exact Reads.pure _
  | error fault => exact Reads.escape _

/-- A message is printed if its marks can be followed. -/
theorem reads_say (stream : Stream) (label message : String) :
    Reads (say stream label message) fun _ _ => (marked (" " ++ message)).map fun _ => () := by
  refine ((reads_shown (" " ++ message)).bind fun text => reads_writeLines stream _).of_eq ?_
  intro _ _
  cases marked (" " ++ message) <;> rfl

/-- A message without an opening bracket is printed. -/
theorem reads_say_plain (stream : Stream) (label : String) {message : String}
    (plain : '[' ∉ message.toList) : Reads (say stream label message) fun _ _ => .ok () := by
  have plainText : '[' ∉ (" " ++ message).toList := by
    rw [String.toList_append]
    intro member
    rcases List.mem_append.mp member with space | inMessage
    · exact absurd space (by decide)
    · exact plain inMessage
  obtain ⟨text, shows⟩ := exists_unmark_of_not_mem plainText
  refine (reads_say stream label message).of_eq fun _ _ => ?_
  rw [marked, shows]
  rfl

/-- What reporting events comes to: where every step is reported, each has to be worded. -/
def reported (verbose : Bool) (events : List Event) : Except Stop Unit :=
  if verbose && events.any fun event => !event.canShow then .error (.escape (.unshown .tooLong))
  else .ok ()

theorem reported_eq_ok_iff {verbose : Bool} {events : List Event} :
    reported verbose events = .ok () ↔
      (verbose = true → ∀ event ∈ events, event.canShow = true) := by
  unfold reported
  cases verbose with
  | false => simp
  | true =>
    rw [Bool.true_and]
    split
    · next hidden =>
      simp only [List.any_eq_true, Bool.not_eq_true'] at hidden
      obtain ⟨event, member, unworded⟩ := hidden
      constructor
      · intro impossible
        cases impossible
      · intro all
        rw [all rfl event member] at unworded
        cases unworded
    · next worded =>
      simpa using worded

theorem length_takeWhile_lt_iff {events : List Event} :
    (events.takeWhile Event.canShow).length < events.length ↔
      (events.any fun event => !event.canShow) = true := by
  induction events with
  | nil => simp
  | cons first rest ih =>
    rw [List.takeWhile_cons]
    cases worded : first.canShow with
    | false => simp [worded]
    | true => simp [worded, ih]

theorem reads_report (events : List Event) :
    Reads (report events) fun verbose _ => reported verbose events := by
  apply Reads.get_bind (fun verbose _ _ _ => reported verbose events)
  intro session
  unfold reported
  cases session.verbose with
  | false =>
    refine Reads.of_eq (Reads.bind (Reads.modify ?_ ?_) fun _ => reads_writeLines .err _) ?_
    all_goals intros; rfl
  | true =>
    rw [if_pos rfl, Bool.true_and]
    by_cases hidden : (events.takeWhile Event.canShow).length < events.length
    · rw [if_pos (length_takeWhile_lt_iff.mp hidden)]
      dsimp only
      rw [if_pos hidden]
      refine Reads.of_eq (Reads.bind (Reads.modify ?_ ?_) fun _ => Reads.escape _) ?_
      all_goals intros; rfl
    · rw [if_neg fun any => hidden (length_takeWhile_lt_iff.mpr any)]
      dsimp only
      rw [if_neg hidden]
      refine Reads.of_eq (Reads.bind (Reads.modify ?_ ?_) fun _ => Reads.pure _) ?_
      all_goals intros; rfl

/-- What an error ends the run with: its message is printed, unless a mark in it cannot be
followed. -/
def failed (message : String) : Stop :=
  match marked (" " ++ message) with
  | .ok _ => .exit 1
  | .error stop => stop

theorem reads_fail (label message : String) :
    Reads (fail label message : Run α) fun _ _ => .error (failed message) := by
  have reads : Reads (fail label message : Run α) _ :=
    (reads_say .err label message).bind fun _ => Reads.throw fun same => nomatch same
  refine reads.of_eq fun _ _ => ?_
  unfold failed
  cases marked (" " ++ message) <;> rfl

/-- What an error of the configuration ends the run with. -/
def refused (error : ConfigError) : Stop :=
  match error.problem with
  | .unshown why => .escape (.unshown why)
  | _ => failed error.message

theorem reads_refuse (error : ConfigError) :
    Reads (refuse error : Run α) fun _ _ => .error (refused error) := by
  unfold refuse refused
  cases error.problem with
  | unshown why => exact Reads.escape _
  | _ => exact reads_fail _ _

end Run

/-! ## Settings and sources -/

namespace Config

/-- What is reported when the configuration of a file is loaded, if one is. -/
def loadEvents (depths : Depths) (files : Files) : Option String → List Event
  | none => []
  | some path => (load depths files path).2

/-- The settings of a file, or the standard ones. -/
def loaded (depths : Depths) (files : Files) : Option String → Except LoadFault Config
  | none => .ok standard
  | some path => (load depths files path).1

/-- The settings in force: those that are loaded, with the width of a level that is given. -/
def inForce (depths : Depths) (files : Files) (path : Option String) (indentWidth : Option Int) :
    Except LoadFault Config := do
  ((← loaded depths files path).withIndentWidth depths indentWidth).mapError .invalid

end Config

namespace Run

variable {α β : Type}

/-- What a file that gives no configuration ends the run with. -/
def loadStop : LoadFault → Stop
  | .invalid error => refused error
  | .nulInPath => .escape .nulInPath
  | .notUtf8 offset => .escape (.notUtf8 offset)
  | .badValue fault => .escape (.badValue fault)

/-- A configuration is loaded once the report of its file is made. -/
theorem reads_loadConfig (machine : Machine) (path : Option String) :
    Reads (loadConfig machine path) fun verbose files =>
      reported verbose (Config.loadEvents machine.depths files path) >>= fun _ =>
        (Config.loaded machine.depths files path).mapError loadStop := by
  cases path with
  | none =>
    refine Reads.of_eq (Reads.pure _) fun verbose files => ?_
    cases verbose <;> rfl
  | some path =>
    apply Reads.get_bind (fun _ files verbose _ =>
      reported verbose (Config.load machine.depths files path).2 >>= fun _ =>
        (Config.load machine.depths files path).1.mapError loadStop)
    intro session
    obtain ⟨result, events⟩ := Config.load machine.depths session.files path
    refine Reads.bind (reads_report events) fun _ => ?_
    rcases result with (error | _ | offset | fault) | config
    · exact reads_refuse error
    · exact Reads.escape _
    · exact Reads.escape _
    · exact Reads.escape _
    · exact Reads.pure config

/-- Settings are those in force, once the report of their file is made. -/
theorem reads_settings (machine : Machine) (path : Option String) (indentWidth : Option Int) :
    Reads (settings machine path indentWidth) fun verbose files =>
      reported verbose (Config.loadEvents machine.depths files path) >>= fun _ =>
        (Config.inForce machine.depths files path indentWidth).mapError loadStop := by
  refine Reads.of_eq (@Reads.bind _ _ _ _ _ (fun config _ _ =>
    ((config.withIndentWidth machine.depths indentWidth).mapError LoadFault.invalid).mapError
      loadStop) (reads_loadConfig machine path) fun config => ?_) fun verbose files => ?_
  · cases config.withIndentWidth machine.depths indentWidth with
    | ok config => exact Reads.pure _
    | error error => exact reads_refuse error
  · unfold Config.inForce
    cases reported verbose (Config.loadEvents machine.depths files path) with
    | error stop => rfl
    | ok _ => cases Config.loaded machine.depths files path <;> rfl

/-- What a source that cannot be read ends the run with. -/
def sourceStop (path : String) : Files.TextFault → Stop
  | .nulInPath => .escape .nulInPath
  | .unreadable .missing => failed ("File not found: " ++ path)
  | .unreadable fault => failed ("Cannot read " ++ path ++ ": " ++
      fault.message (Path.ofString path).render)
  | .notUtf8 offset => failed (path ++ " is not UTF-8 Turtle (byte " ++ toString offset ++ ")")

/-- A source is the text of its file. -/
theorem reads_readSource (path : String) :
    Reads (readSource path) fun _ files =>
      (files.readText (Path.ofString path)).mapError (sourceStop path) := by
  apply Reads.get_bind (fun _ files _ _ =>
    (files.readText (Path.ofString path)).mapError (sourceStop path))
  intro session
  rcases session.files.readText (Path.ofString path) with (_ | (_ | _ | _ | _) | offset) | text
  · exact Reads.escape _
  · exact reads_fail _ _
  · exact reads_fail _ _
  · exact reads_fail _ _
  · exact reads_fail _ _
  · exact reads_fail _ _
  · exact Reads.pure text

/-- What a warning of a suffix comes to, where one is due: its marks have to be followed. -/
def warned (config : Config) (path : String) : Except Stop Unit :=
  if config.isTurtlePath? path = some true then .ok ()
  else (marked (" " ++ (path ++ " does not have a Turtle extension (" ++
    ", ".intercalate config.suffixes ++ ")"))).map fun _ => ()

theorem reads_warnOfSuffix (config : Config) (path : String) :
    Reads (warnOfSuffix config path) fun _ _ => warned config path := by
  unfold warnOfSuffix warned
  split
  · exact Reads.pure _
  · exact reads_say _ _ _

end Run

/-- The edit that puts every line of a text where it belongs. -/
def Config.placeAll (room : Room) (config : Config) (source : Text) : Edit (List Int) :=
  (⟨config.indentWidth⟩ : Indenter).indentRegion (Buffer.ofText source config.tabWidth room) 0 none

namespace Run

variable {α β : Type}

/-- A text is indented by placing all of its lines, once the report of the steps is made. -/
theorem reads_reindent (machine : Machine) (config : Config) (source : Text) :
    Reads (reindent machine config source) fun verbose _ =>
      reported verbose (config.placeAll machine.room source).events >>= fun _ =>
        ((config.placeAll machine.room source).outcome.map fun _ =>
            (config.placeAll machine.room source).buffer.text).mapError
          fun fault => .escape (.misplaced fault) := by
  unfold reindent Config.placeAll
  dsimp only
  generalize
    Indenter.indentRegion _ (Buffer.ofText source config.tabWidth machine.room) 0 none = edit
  refine Reads.bind (reads_report _) fun _ => ?_
  cases edit.outcome with
  | ok columns => exact Reads.pure _
  | error fault => exact Reads.escape _

/-! ## Commands that only read -/

/-- A part of a run that only reads, whatever decides its result. -/
def Quiet (action : Run α) : Prop := ∃ result, Reads action result

namespace Quiet

theorem bind {action : Run α} {next : α → Run β} (first : Quiet action)
    (rest : ∀ value, Quiet (next value)) : Quiet (action >>= next) := by
  obtain ⟨result, reads⟩ := first
  choose results readsNext using rest
  exact ⟨_, reads.bind readsNext⟩

theorem mapM {action : α → Run β} (each : ∀ item, Quiet (action item)) (items : List α) :
    Quiet (items.mapM action) := by
  induction items with
  | nil =>
    rw [List.mapM_nil]
    exact ⟨_, Reads.pure _⟩
  | cons item items ih =>
    rw [List.mapM_cons]
    exact (each item).bind fun first => ih.bind fun others => ⟨_, Reads.pure _⟩

/-- A run that only reads leaves the files as they are. -/
theorem outcome_files {action : Run Unit} (quiet : Quiet action) (session : Session) :
    (action.outcome session).session.files = session.files := by
  obtain ⟨result, reads⟩ := quiet
  rw [outcome_session]
  exact reads.files session

end Quiet

theorem quiet_digits (n : Int) : Quiet (digits n) := by
  unfold digits
  split
  · exact ⟨_, Reads.pure _⟩
  · exact ⟨_, Reads.escape _⟩

theorem quiet_settings (machine : Machine) (path : Option String) (indentWidth : Option Int) :
    Quiet (settings machine path indentWidth) := ⟨_, reads_settings machine path indentWidth⟩

theorem quiet_showSettings (machine : Machine) (path : Option String) :
    Quiet (showSettings machine path) := by
  refine (quiet_settings machine path none).bind fun config => ?_
  refine (quiet_digits _).bind fun indentWidth => (quiet_digits _).bind fun tabWidth => ?_
  refine Quiet.bind (Quiet.mapM (fun row => ?_) _) fun rows => ?_
  · exact Quiet.bind ⟨_, reads_shown _⟩ fun name => Quiet.bind ⟨_, reads_shown _⟩ fun value =>
      ⟨_, Reads.pure _⟩
  · split
    · exact Quiet.bind ⟨_, Reads.escape _⟩ fun _ => ⟨_, reads_writeLines _ _⟩
    · exact ⟨_, reads_writeLines _ _⟩

theorem quiet_highlight (request : HighlightRequest) : Quiet (highlight request) := by
  refine Quiet.bind ⟨_, reads_readSource request.file⟩ fun source => ?_
  refine Quiet.bind ⟨_, reads_report _⟩ fun _ => ?_
  split
  · exact Quiet.bind ⟨_, reads_report _⟩ fun _ => Quiet.bind ⟨_, reads_shown _⟩ fun title =>
      ⟨_, reads_writeLines _ _⟩
  · exact ⟨_, reads_write _ _⟩

end Run

end TurtleEdit
