import TurtleEdit.Buffer.Plan
import TurtleEdit.Command.Request
import TurtleEdit.Config.Load
import TurtleEdit.Highlight.Classify
import TurtleEdit.Layout.Listing
import TurtleEdit.Layout.Markup
import TurtleEdit.Layout.Table

/-!
What a command line does.

A run prints, reports events, may replace the bytes of a file, and may stop early. All of it is a
value: the session after the run. Messages are wrapped to the width of the screen and their marks
are dropped, so a path that looks like a closing mark cannot be shown and ends the run. What can be
held and written while it lasts is up to the machine that it has.
-/

namespace TurtleEdit

/-- The cells in a line of the screen. -/
def screenWidth : Nat := 160

/-- Where a command prints. -/
inductive Stream where
  | out
  | err
  deriving DecidableEq, Repr

/-- What a run has done so far. -/
structure Session where
  verbose : Bool
  out : Text
  err : Text
  events : List Event
  files : Files

/-- Why a run is broken off without a message of its own. -/
inductive Escape where
  /-- A path holds a NUL character. -/
  | nulInPath
  /-- The configuration is no text from this byte on. -/
  | notUtf8 (offset : Nat)
  /-- A scalar of the configuration does not fit its kind. -/
  | badValue (fault : Yaml.Fault)
  /-- A message holds a mark that cannot be followed. -/
  | badMark (fault : MarkFault)
  /-- A line cannot be placed. -/
  | misplaced (fault : Fault)
  /-- Something that cannot be written would have to be shown. -/
  | unshown (why : Unshown)
  /-- Half of a surrogate pair would have to be printed, and no bytes stand for it. -/
  | unencodable

/-- Why a run stops before its end. -/
inductive Stop where
  | exit (code : Nat)
  | escape (reason : Escape)

/-- A run of a command, or a part of one. -/
abbrev Run := ExceptT Stop (StateM Session)

namespace Run

/-- Prints a text. -/
def write (stream : Stream) (text : Text) : Run Unit :=
  modify fun session =>
    match stream with
    | .out => { session with out := session.out ++ text }
    | .err => { session with err := session.err ++ text }

/-- Prints lines, each with a line feed. -/
def writeLines (stream : Stream) (lines : List Text) : Run Unit :=
  write stream (lines.flatMap (· ++ ['\n']))

/-- The text that a marked text shows. -/
def shown (text : String) : Run Text :=
  match unmark text.toList with
  | .ok text => return showable text
  | .error fault => throw (.escape (.badMark fault))

/-- Prints a message after a label, wrapped. -/
def say (stream : Stream) (label message : String) : Run Unit := do
  let text ← shown (" " ++ message)
  writeLines stream (wrap .free .fold screenWidth (label.toList ++ text))

/-- The head of what is printed in place of a warning that cannot be worded. -/
def complaint : String := "--- Logging error ---"

/-- Reports events. A warning is also printed, or that it cannot be worded, unless every step is
reported anyway; then an event that cannot be worded ends the run. -/
def report (events : List Event) : Run Unit := do
  if (← get).verbose then
    let shown := events.takeWhile Event.canShow
    modify fun session => { session with events := session.events ++ shown }
    if shown.length < events.length then throw (.escape (.unshown .tooLong))
  else
    let warnings := events.filter (·.level = .warning)
    modify fun session => { session with events := session.events ++ events }
    writeLines .err (warnings.map fun event => (event.message?.getD complaint).toList)

/-- Prints an error and stops. -/
def fail {α : Type} (label message : String) : Run α := do
  say .err label message
  throw (.exit 1)

/-! ## Settings and sources -/

/-- Prints an error of the configuration and stops. -/
def refuse {α : Type} (error : ConfigError) : Run α :=
  match error.problem with
  | .unshown why => throw (.escape (.unshown why))
  | _ => fail "Configuration error:" error.message

/-- The configuration of a file, or the standard one. -/
def loadConfig (machine : Machine) : Option String → Run Config
  | none => return .standard
  | some path => do
    let (result, events) := Config.load machine.depths (← get).files path
    report events
    match result with
    | .ok config => return config
    | .error (.invalid error) => refuse error
    | .error .nulInPath => throw (.escape .nulInPath)
    | .error (.notUtf8 offset) => throw (.escape (.notUtf8 offset))
    | .error (.badValue fault) => throw (.escape (.badValue fault))

/-- The settings in force: those of a file, and the width of a level that the command line gives. -/
def settings (machine : Machine) (path : Option String) (indentWidth : Option Int) :
    Run Config := do
  match (← loadConfig machine path).withIndentWidth machine.depths indentWidth with
  | .ok config => return config
  | .error error => refuse error

/-- The text of a file. -/
def readSource (path : String) : Run Text := do
  let place := Path.ofString path
  match (← get).files.readText place with
  | .ok text => return text
  | .error .nulInPath => throw (.escape .nulInPath)
  | .error (.unreadable .missing) => fail "Error:" ("File not found: " ++ path)
  | .error (.unreadable fault) =>
    fail "Error:" ("Cannot read " ++ path ++ ": " ++ fault.message place.render)
  | .error (.notUtf8 offset) =>
    fail "Error:" (path ++ " is not UTF-8 Turtle (byte " ++ toString offset ++ ")")

/-- Warns of a path without one of the suffixes that the mode is for. -/
def warnOfSuffix (config : Config) (path : String) : Run Unit := do
  unless config.isTurtlePath? path = some true do
    say .err "Warning:" (path ++ " does not have a Turtle extension (" ++
      ", ".intercalate config.suffixes ++ ")")

/-! ## Commands -/

/-- The text with every line where it belongs. -/
def reindent (machine : Machine) (config : Config) (source : Text) : Run Text := do
  let indenter : Indenter := ⟨config.indentWidth⟩
  let edit := indenter.indentRegion (Buffer.ofText source config.tabWidth machine.room) 0 none
  report edit.events
  match edit.outcome with
  | .ok _ => return edit.buffer.text
  | .error fault => throw (.escape (.misplaced fault))

/-- Replaces the bytes of a file by those of a text. -/
def writeSource (path : String) (text : Text) : Run Unit :=
  modify fun session =>
    { session with files := session.files.write (Path.ofString path) (encodeUtf8 text) }

/-- Indents a file: compares it with the result, replaces it, or lists the result. -/
def indent (machine : Machine) (request : IndentRequest) : Run Unit := do
  let config ← settings machine request.config request.indentWidth
  warnOfSuffix config request.file
  let source ← readSource request.file
  let indented ← reindent machine config source
  if request.check then
    if indented = source then say .out "OK" (request.file ++ ": already indented")
    else
      say .out "NEEDS INDENTING" request.file
      throw (.exit 1)
  else if request.inPlace then
    writeSource request.file indented
    say .out "Indented" request.file
  else writeLines .out (listing screenWidth indented)

/-- The table of a text's spans. -/
def spanTable (title : Text) (source : Text) (spans : List Span) : Table where
  title := title
  columns := [⟨.right, 0⟩, ⟨.right, 0⟩, ⟨.left, 14⟩, ⟨.left, 0⟩]
  head := some ["Start".toList, "End".toList, "Style".toList, "Text".toList]
  rows := spans.map fun span => [
    Nat.toDigits 10 span.start, Nat.toDigits 10 span.stop, span.style.name.toList,
    showable ((source.drop span.start).take (span.stop - span.start))]

/-- Shows a file, or lists its spans. Listing them widens the region a second time. -/
def highlight (request : HighlightRequest) : Run Unit := do
  let source ← readSource request.file
  let (region, events) :=
    Region.extend source request.start (request.stop.getD source.length)
  report events
  let spans := (classify standardRules source request.start request.stop).toOption.getD []
  if request.spans then
    report events
    let title ← shown ("Spans: " ++ request.file ++ " [" ++ toString region.start ++ ":" ++
      toString region.stop ++ "]")
    writeLines .out ((spanTable title source spans).lines screenWidth)
  else write .out (joinLines (wrap .free .fold screenWidth (showable source)))

/-- The table of settings: a name and a value to a row. -/
def settingsTable (rows : List (List Text)) : Table where
  title := []
  columns := [⟨.left, 0⟩, ⟨.left, 0⟩]
  head := none
  rows := rows

/-- The digits of an integer. -/
def digits (n : Int) : Run String :=
  match digits? n with
  | some text => return text
  | none => throw (.escape (.unshown .tooLong))

/-- Shows the version and the settings in force. -/
def showSettings (machine : Machine) (path : Option String) : Run Unit := do
  let config ← settings machine path none
  let indentWidth ← digits config.indentWidth
  let tabWidth ← digits config.tabWidth
  let rows ← [
    (programName, "v" ++ programVersion),
    ("Indent width", indentWidth),
    ("Tab width", tabWidth),
    ("Extensions", " ".intercalate config.suffixes),
    ("Config", path.getD "(defaults)")].mapM fun (name, value) => do
      return [← shown name, ← shown value]
  if config.hasTornSuffix then throw (.escape .unencodable)
  writeLines .out ((settingsTable rows).lines screenWidth)

/-- Does what is asked. -/
def ofRequest (machine : Machine) : Request → Run Unit
  | .help scope => write .out scope.help.toList
  | .versionLine => writeLines .out [(programName ++ ", version " ++ programVersion).toList]
  | .settings path => showSettings machine path
  | .indent request => indent machine request
  | .highlight request => highlight request

end Run

/-! ## Outcomes -/

/-- What a run leaves: its exit code, why it was broken off if it was, and the session. -/
structure Outcome where
  exitCode : Nat
  escape : Option Escape
  session : Session

/-- The outcome of a run from a session. -/
def Run.outcome (action : Run Unit) (session : Session) : Outcome :=
  match (ExceptT.run action).run session with
  | (.ok (), session) => ⟨0, none, session⟩
  | (.error (.exit code), session) => ⟨code, none, session⟩
  | (.error (.escape reason), session) => ⟨1, some reason, session⟩

/-- What the words of a command line do on a machine where there are some files. -/
def runWords (machine : Machine) (files : Files) (words : List String) : Outcome :=
  match Invocation.ofWords words with
  | .error (.usage error) => ⟨2, none, ⟨false, [], error.render.toList, [], files⟩⟩
  | .error (.nulInPath verbose) => ⟨1, some .nulInPath, ⟨verbose, [], [], [], files⟩⟩
  | .ok invocation =>
    (Run.ofRequest machine invocation.request).outcome ⟨invocation.verbose, [], [], [], files⟩

end TurtleEdit
