import TurtleEdit.Text.Blank
import TurtleEdit.Text.Quoted
import TurtleEdit.Text.Similar

/-!
The command line as its user sees it: commands, options, help and usage errors.

The options of the program stand before the name of a command, and those of the command after it.
Help is made from the descriptions here, in two columns.
-/

namespace TurtleEdit

/-- The name of the program. -/
def programName : String := "ttl-mode"

/-- The version of the program. -/
def programVersion : String := "0.1.0"

/-- An option of the program or of a command. -/
inductive Switch where
  | version
  | verbose
  | help
  | indentWidth
  | config
  | check
  | inPlace
  | start
  | stop
  | spans
  deriving DecidableEq, Repr

/-- What an option takes. -/
inductive SwitchValue where
  | nothing
  | integer
  | text
  deriving DecidableEq, Repr

namespace Switch

/-- The long name of an option. -/
def longName : Switch → String
  | version => "--version"
  | verbose => "--verbose"
  | help => "--help"
  | indentWidth => "--indent-width"
  | config => "--config"
  | check => "--check"
  | inPlace => "--in-place"
  | start => "--start"
  | stop => "--end"
  | spans => "--spans"

/-- The short name of an option, if it has one. -/
def shortName? : Switch → Option String
  | verbose => some "-v"
  | indentWidth => some "-w"
  | _ => none

/-- What an option takes. -/
def value : Switch → SwitchValue
  | indentWidth | start | stop => .integer
  | config => .text
  | _ => .nothing

/-- An option takes a value. -/
def takesValue (switch : Switch) : Bool := switch.value != .nothing

/-- What an option is for. -/
def purpose : Switch → String
  | version => "Show the version and exit."
  | verbose => "Log indentation decisions"
  | help => "Show this message and exit."
  | indentWidth => "Columns per indentation level"
  | config => "YAML configuration file"
  | check => "Check if file is already indented"
  | inPlace => "Rewrite the file in place"
  | start => "Start offset of the region to scan"
  | stop => "End offset of the region to scan"
  | spans => "List styled spans instead of rendering"

/-- The names of an option and what it takes, as help shows them. -/
def signature (switch : Switch) : String :=
  let names := match switch.shortName? with
    | some short => short ++ ", " ++ switch.longName
    | none => switch.longName
  match switch.value with
  | .nothing => names
  | .integer => names ++ " INTEGER"
  | .text => names ++ " TEXT"

/-- The names of an option in an error message. -/
def hint (switch : Switch) : String :=
  let long := "'" ++ switch.longName ++ "'"
  match switch.shortName? with
  | some short => long ++ " / '" ++ short ++ "'"
  | none => long

end Switch

/-- A command of the program. -/
inductive Command where
  | highlight
  | indent
  | version
  deriving DecidableEq, Repr

namespace Command

/-- Every command, in the order of their names. -/
def all : List Command := [highlight, indent, version]

/-- The name of a command. -/
def name : Command → String
  | highlight => "highlight"
  | indent => "indent"
  | version => "version"

/-- The command with a name. -/
def ofName? (name : String) : Option Command := all.find? (·.name == name)

/-- What a command does, in a sentence. -/
def purpose : Command → String
  | highlight => "Print a Turtle file with syntax highlighting."
  | indent => "Re-indent every line of a Turtle file, top to bottom."
  | version => "Show the version and the effective mode settings."

/-- More about a command, a line to a paragraph. -/
def details : Command → List String
  | highlight => ["FILE is the path to the .ttl or .n3 file to highlight."]
  | indent => [
    "FILE is the path to the .ttl or .n3 file to indent.",
    "Without --check or --in-place, prints the re-indented output to stdout."]
  | version => []

/-- A command takes the path of a file. -/
def takesFile : Command → Bool
  | highlight | indent => true
  | version => false

/-- The options of a command. -/
def switches : Command → List Switch
  | highlight => [.start, .stop, .spans, .help]
  | indent => [.indentWidth, .config, .check, .inPlace, .help]
  | version => [.config, .help]

end Command

/-- Where options are read: before the name of a command, or after it. -/
inductive Scope where
  | program
  | command (command : Command)
  deriving DecidableEq, Repr

namespace Scope

/-- The options of a scope. -/
def switches : Scope → List Switch
  | program => [.version, .verbose, .help]
  | command one => one.switches

/-- The words that lead to a scope. -/
def path : Scope → String
  | program => programName
  | command one => programName ++ " " ++ one.name

/-- The line that shows what a scope takes. -/
def usage (scope : Scope) : String :=
  let operands := match scope with
    | program => " COMMAND [ARGS]..."
    | command one => if one.takesFile then " FILE" else ""
  "Usage: " ++ scope.path ++ " [OPTIONS]" ++ operands ++ "\n"

/-- The option of a scope with a long name. -/
def long? (scope : Scope) (name : String) : Option Switch :=
  scope.switches.find? (·.longName == name)

/-- The option of a scope with a short name. -/
def short? (scope : Scope) (name : String) : Option Switch :=
  scope.switches.find? (·.shortName? == some name)

/-- Rows of two columns, the second two spaces beyond the widest first. -/
def helpRows (rows : List (String × String)) : String :=
  let width := (rows.map (·.1.length)).foldl max 0
  String.join (rows.map fun row =>
    "  " ++ row.1 ++ String.ofList (List.replicate (width + 2 - row.1.length) ' ') ++ row.2 ++ "\n")

/-- The help of a scope. -/
def help (scope : Scope) : String :=
  let paragraphs := match scope with
    | program => ["Turtle/N3 editing mode: indentation inference and syntax highlighting."]
    | command one => one.purpose :: one.details
  let options := helpRows (scope.switches.map fun switch => (switch.signature, switch.purpose))
  let commands := match scope with
    | program =>
      "\nCommands:\n" ++ helpRows (Command.all.map fun command => (command.name, command.purpose))
    | command _ => ""
  scope.usage ++ "\n" ++ String.join (paragraphs.map fun text => "  " ++ text ++ "\n\n") ++
    "Options:\n" ++ options ++ commands

end Scope

/-! ## Usage errors -/

/-- What is wrong with the words of a command line. -/
inductive UsageProblem where
  /-- No option has this name; `near` are names alike to it. -/
  | noSuchOption (name : String) (near : List String)
  /-- An option stands last without its value. -/
  | needsValue (name : String)
  /-- An option that takes nothing was given a value. -/
  | takesNoValue (name : String)
  /-- The value of an option is no integer. -/
  | notInteger (switch : Switch) (value : String)
  | missingFile
  | unexpected (operands : List String)
  | missingCommand
  | noSuchCommand (name : String)
  deriving DecidableEq, Repr

namespace UsageProblem

/-- The names that may have been meant. -/
def suggestion : List String → String
  | [] => ""
  | [name] => " Did you mean " ++ name ++ "?"
  | names => " (Possible options: " ++ ", ".intercalate (names.mergeSort (· ≤ ·)) ++ ")"

/-- The wording of a problem. -/
def message : UsageProblem → String
  | noSuchOption name near => "No such option: " ++ name ++ suggestion near
  | needsValue name => "Option " ++ quoted name ++ " requires an argument."
  | takesNoValue name => "Option " ++ quoted name ++ " does not take a value."
  | notInteger switch value =>
    "Invalid value for " ++ switch.hint ++ ": " ++ quoted value ++ " is not a valid integer."
  | missingFile => "Missing argument 'FILE'."
  | unexpected operands =>
    "Got unexpected extra argument" ++ (if operands.length = 1 then "" else "s") ++ " (" ++
      " ".intercalate operands ++ ")"
  | missingCommand => "Missing command."
  | noSuchCommand name => "No such command " ++ quoted name ++ "."

/-- A problem with the value of an option is shown without the usage of its scope. -/
def showsUsage : UsageProblem → Bool
  | needsValue _ | takesNoValue _ => false
  | _ => true

end UsageProblem

/-! ## Terminal codes -/

/-- The text after a terminal code: an escape character, a bracket, digits, semicolons and question
marks, and a letter. -/
def afterTerminalCode? : Text → Option Text
  | escape :: '[' :: code =>
    if escape.toNat = 0x1B then
      match code.dropWhile fun c => c.isDigit || c == ';' || c == '?' with
      | c :: rest => if c.isAlpha then some rest else none
      | [] => none
    else none
  | _ => none

theorem length_of_afterTerminalCode? {text rest : Text} (h : afterTerminalCode? text = some rest) :
    rest.length < text.length := by
  unfold afterTerminalCode? at h
  split at h
  · rename_i escape code
    have := (List.dropWhile_suffix (l := code) fun c => c.isDigit || c == ';' || c == '?').length_le
    split at h
    · split at h
      · rename_i c tail heq
        rw [heq] at this
        split at h
        · cases h
          simp only [List.length_cons] at this ⊢
          omega
        · cases h
      · cases h
    · cases h
  · cases h

/-- A text without the codes that would colour or clear a terminal. -/
def dropTerminalCodes (text : Text) : Text :=
  match text with
  | [] => []
  | c :: rest =>
    match h : afterTerminalCode? (c :: rest) with
    | some after =>
      have := length_of_afterTerminalCode? h
      dropTerminalCodes after
    | none => c :: dropTerminalCodes rest
termination_by text.length
decreasing_by all_goals simp only [List.length_cons] at *; omega

/-- A problem and the scope in which it arose. -/
structure UsageError where
  scope : Scope
  problem : UsageProblem
  deriving DecidableEq, Repr

/-- The text that reports a usage error; terminal codes among the words are left out. -/
def UsageError.render (error : UsageError) : String :=
  let usage :=
    if error.problem.showsUsage then
      error.scope.usage ++ "Try '" ++ error.scope.path ++ " --help' for help.\n\n"
    else ""
  String.ofList (dropTerminalCodes (usage ++ "Error: " ++ error.problem.message ++ "\n").toList)

end TurtleEdit
