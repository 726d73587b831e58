import TurtleEdit.Command.Usage
import TurtleEdit.Number.Reading
import TurtleEdit.Path
import TurtleEdit.Text.Word

/-!
What the words of a command line ask for.

Words that start with a hyphen name options. A long name may carry its value after an equals sign,
short ones may stand together, and the value of an option may be the word after it. Two hyphens end
the options. All words are read before anything is asked: then help comes first, values are checked
in the order in which their options came, and operands come last. An option given more than once
has its last value.
-/

namespace TurtleEdit

/-- An option that was given; one that takes nothing has no text. -/
structure Given where
  switch : Switch
  value : String
  deriving DecidableEq, Repr

/-- What one word gives: options, and one that waits for its value under the name it was given. -/
structure OptionWord where
  given : List Given
  waiting : Option (Switch × String)

/-- The options and the operands of words. -/
structure Reading where
  given : List Given
  operands : List String
  deriving DecidableEq, Repr

/-! ## Words -/

/-- A word that names options. -/
def namesOptions (word : String) : Bool := word.startsWith "-" && word != "-"

namespace Scope

/-- Reads short names that stand together. The rest after one that takes a value is its value. -/
def readShort (scope : Scope) : Text → Except UsageProblem OptionWord
  | [] => .ok ⟨[], none⟩
  | c :: rest =>
    let name := String.ofList ['-', c]
    match scope.short? name with
    | none => .error (.noSuchOption name [])
    | some switch =>
      if switch.takesValue then
        if rest.isEmpty then .ok ⟨[], some (switch, name)⟩
        else .ok ⟨[⟨switch, String.ofList rest⟩], none⟩
      else do
        let word ← scope.readShort rest
        return ⟨⟨switch, ""⟩ :: word.given, word.waiting⟩

/-- Reads a word that names options: a long name, or else short ones. -/
def readOption (scope : Scope) (word : String) : Except UsageProblem OptionWord :=
  let name := String.ofList (word.toList.takeWhile (· != '='))
  let value? := match word.toList.dropWhile (· != '=') with
    | _ :: value => some (String.ofList value)
    | [] => none
  match scope.long? name, value? with
  | some switch, some value =>
    if switch.takesValue then .ok ⟨[⟨switch, value⟩], none⟩ else .error (.takesNoValue name)
  | some switch, none =>
    if switch.takesValue then .ok ⟨[], some (switch, name)⟩ else .ok ⟨[⟨switch, ""⟩], none⟩
  | none, _ =>
    if word.startsWith "--" then
      .error (.noSuchOption name (nearNames name (scope.switches.map Switch.longName)))
    else scope.readShort (word.toList.drop 1)

/-- Reads words, the first one as a value if an option waits for it. Before the name of a command,
the first operand ends the options. -/
def readWords (scope : Scope) (waiting : Option (Switch × String)) :
    List String → Except UsageProblem Reading
  | [] =>
    match waiting with
    | some (_, name) => .error (.needsValue name)
    | none => .ok ⟨[], []⟩
  | word :: rest =>
    match waiting with
    | some (switch, _) => do
      let reading ← scope.readWords none rest
      return { reading with given := ⟨switch, word⟩ :: reading.given }
    | none =>
      if word = "--" then .ok ⟨[], rest⟩
      else if namesOptions word then do
        let option ← scope.readOption word
        let reading ← scope.readWords option.waiting rest
        return { reading with given := option.given ++ reading.given }
      else if scope = .program then .ok ⟨[], word :: rest⟩
      else do
        let reading ← scope.readWords none rest
        return { reading with operands := word :: reading.operands }

end Scope

namespace Reading

/-- An option was given. -/
def has (reading : Reading) (switch : Switch) : Bool := reading.given.any (·.switch == switch)

/-- The last value of an option. -/
def value? (reading : Reading) (switch : Switch) : Option String :=
  (reading.given.reverse.find? (·.switch == switch)).map Given.value

/-- The last value of an option as an integer. -/
def int? (reading : Reading) (switch : Switch) : Option Int :=
  (reading.value? switch).bind fun value => (readInt 10 value.toList).toOption

/-- The first option given whose value should be an integer and is none. -/
def notInteger? (reading : Reading) : Option UsageProblem :=
  (reading.given.find? fun given =>
    given.switch.value = .integer && (reading.int? given.switch).isNone).map fun given =>
      .notInteger given.switch ((reading.value? given.switch).getD "")

/-- The path of a configuration file; an empty one is none. -/
def configPath? (reading : Reading) : Option String :=
  (reading.value? .config).filter (!·.isEmpty)

end Reading

/-! ## Requests -/

/-- What the command that indents is asked for. -/
structure IndentRequest where
  file : String
  indentWidth : Option Int
  config : Option String
  check : Bool
  inPlace : Bool
  deriving DecidableEq, Repr

/-- What the command that highlights is asked for. -/
structure HighlightRequest where
  file : String
  start : Int
  stop : Option Int
  spans : Bool
  deriving DecidableEq, Repr

/-- Why words make no request. -/
inductive Objection where
  | problem (problem : UsageProblem)
  /-- The path of the file holds a NUL character, which no path can. -/
  | nulInPath
  deriving DecidableEq, Repr

/-- What a command line asks for. -/
inductive Request where
  | help (scope : Scope)
  | versionLine
  | settings (config : Option String)
  | indent (request : IndentRequest)
  | highlight (request : HighlightRequest)
  deriving DecidableEq, Repr

namespace Request

/-- The request of a command with its options and its file; one that takes none has an empty
path. -/
def ofReading (command : Command) (reading : Reading) (file : String) : Request :=
  match command with
  | .highlight =>
    .highlight ⟨file, (reading.int? .start).getD 0, reading.int? .stop, reading.has .spans⟩
  | .indent =>
    .indent ⟨file, reading.int? .indentWidth, reading.configPath?, reading.has .check,
      reading.has .inPlace⟩
  | .version => .settings reading.configPath?

/-- The request of a command and the words after its name. -/
def ofCommand (command : Command) (words : List String) : Except Objection Request := do
  let reading ← ((Scope.command command).readWords none words).mapError .problem
  if reading.has .help then return .help (.command command)
  if let some problem := reading.notInteger? then throw (.problem problem)
  if command.takesFile then
    match reading.operands with
    | [] => throw (.problem .missingFile)
    | file :: more =>
      if (Path.ofString file).hasNul then throw .nulInPath
      if !more.isEmpty then throw (.problem (.unexpected more))
      return ofReading command reading file
  else if reading.operands.isEmpty then return ofReading command reading ""
  else throw (.problem (.unexpected reading.operands))

/-- A word that cannot be meant as the name of a command: it starts with a character that is
neither a letter nor a digit. -/
def isNoName (word : String) : Bool :=
  match word.toList with
  | c :: _ => !isWord c || c == '_'
  | [] => false

/-- The request of operands: a command and its words. An objection comes with its scope. -/
def ofOperands : List String → Except (Scope × Objection) Request
  | [] => .error (.program, .problem .missingCommand)
  | name :: words =>
    match Command.ofName? name with
    | some command => (ofCommand command words).mapError (.command command, ·)
    | none =>
      if isNoName name then .ok (.help .program)
      else .error (.program, .problem (.noSuchCommand name))

end Request

/-- A request, and whether to report every step. -/
structure Invocation where
  verbose : Bool
  request : Request
  deriving DecidableEq, Repr

/-- The options that are answered before all others. -/
def Given.answer? (given : Given) : Option Request :=
  match given.switch with
  | .help => some (.help .program)
  | .version => some .versionLine
  | _ => none

/-- Why a command line is refused. -/
inductive Refusal where
  | usage (error : UsageError)
  /-- The path of a file holds a NUL character; options before the command still count. -/
  | nulInPath (verbose : Bool)
  deriving DecidableEq, Repr

/-- The refusal of an objection. -/
def Refusal.ofObjection (verbose : Bool) : Scope × Objection → Refusal
  | (scope, .problem problem) => .usage ⟨scope, problem⟩
  | (_, .nulInPath) => .nulInPath verbose

/-- The invocation that the words of a command line make. No words ask for help. -/
def Invocation.ofWords (words : List String) : Except Refusal Invocation := do
  if words.isEmpty then return ⟨false, .help .program⟩
  let reading ← (Scope.program.readWords none words).mapError fun problem =>
    .usage ⟨.program, problem⟩
  let verbose := reading.has .verbose
  match reading.given.findSome? Given.answer? with
  | some request => return ⟨verbose, request⟩
  | none =>
    return ⟨verbose, ← (Request.ofOperands reading.operands).mapError (.ofObjection verbose)⟩

end TurtleEdit
