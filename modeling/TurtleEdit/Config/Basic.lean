import TurtleEdit.Buffer.Indent
import TurtleEdit.Path
import TurtleEdit.Text.Casing
import TurtleEdit.Value

/-!
Settings of the editing mode.

There are three settings: the width of a level, the width of a tab and the suffixes of the files
that the mode is for. The widths are checked whenever a configuration is made; the suffixes are
kept as they are given, and checked and brought to lower case where they come from a mapping.

A step that makes a configuration may fail in two ways that callers tell apart: a setting has a
wrong value, or a name is no setting.
-/

namespace TurtleEdit

/-- A setting of the mode. -/
inductive Setting where
  | indentWidth
  | tabWidth
  | extensions
  deriving DecidableEq, Repr

namespace Setting

/-- Every setting. -/
def all : List Setting := [indentWidth, tabWidth, extensions]

/-- The name of a setting. -/
def name : Setting → String
  | indentWidth => "indent_width"
  | tabWidth => "tab_width"
  | extensions => "extensions"

/-- The setting with a name. -/
def ofName? (name : String) : Option Setting := all.find? (·.name == name)

/-- The setting that a key of a mapping names. -/
def ofKey? : Value → Option Setting
  | .str name => ofName? name
  | _ => none

end Setting

/-- The settings in force. -/
structure Config where
  indentWidth : Int
  tabWidth : Int
  extensions : Value
  deriving Repr

/-- What is wrong with a configuration. A value that is refused is shown in its quoted form. -/
inductive ConfigProblem where
  /-- A width is no positive integer. -/
  | notPositive (setting : Setting) (shown : String)
  /-- The suffixes are no list. -/
  | notList (shown : String)
  /-- The file cannot be read. -/
  | unreadable (reason : String)
  /-- The file is no document. -/
  | invalidDocument
  /-- The document is no mapping. -/
  | notMapping
  /-- A value that would have to be shown cannot be written. -/
  | unshown (why : Unshown)
  deriving Repr

/-- The wording of a problem. -/
def ConfigProblem.message : ConfigProblem → String
  | notPositive setting shown => setting.name ++ " must be a positive integer, got " ++ shown
  | notList shown => "extensions must be a list, got " ++ shown
  | unreadable reason => "cannot read configuration: " ++ reason
  | invalidDocument => "invalid YAML"
  | notMapping => "configuration must be a mapping"
  | unshown why => why.message

/-- A problem and the file it was found in, if there is one. -/
structure ConfigError where
  problem : ConfigProblem
  source : Option String
  deriving Repr

/-- The wording of an error: the source, if it has a name, and the problem. -/
def ConfigError.message (error : ConfigError) : String :=
  match error.source with
  | some source =>
    if source.isEmpty then error.problem.message else source ++ ": " ++ error.problem.message
  | none => error.problem.message

/-- Why a step on configurations failed. -/
inductive SettingFault where
  | invalid (error : ConfigError)
  /-- No setting has this name. -/
  | unknown (name : String)
  deriving Repr

namespace Config

/-- The suffixes where none are given. -/
def defaultExtensions : Value := .list [.str ".ttl", .str ".n3"]

/-- The settings where none are given. -/
def standard : Config := ⟨defaultIndentWidth, defaultTabWidth, defaultExtensions⟩

/-- The problem of a value that has to be shown, or that it cannot be. -/
def showing (depth : Nat) (value : Value) (problem : String → ConfigProblem) : ConfigProblem :=
  match value.quote depth with
  | .ok shown => problem shown
  | .error why => .unshown why

/-- A width has to be a positive integer; truth values are none. -/
def positive (depths : Depths) (setting : Setting) : Value → Except ConfigProblem Int
  | .int n =>
    if 1 ≤ n then .ok n else .error (showing depths.width (.int n) (.notPositive setting))
  | value => .error (showing depths.width value (.notPositive setting))

/-- The configuration of three values, the widths checked in order. -/
def make (depths : Depths) (indentWidth tabWidth extensions : Value) :
    Except ConfigProblem Config := do
  let indentWidth ← positive depths .indentWidth indentWidth
  let tabWidth ← positive depths .tabWidth tabWidth
  return ⟨indentWidth, tabWidth, extensions⟩

/-- The value of a setting. -/
def get (config : Config) : Setting → Value
  | .indentWidth => .int config.indentWidth
  | .tabWidth => .int config.tabWidth
  | .extensions => config.extensions

/-- The value that named values give a setting, if one does. -/
def given? (values : List (String × Value)) (setting : Setting) : Option Value :=
  values.lookup setting.name

/-- A configuration with named values in place of its own. -/
def replace (depths : Depths) (config : Config) (values : List (String × Value)) :
    Except SettingFault Config :=
  match values.find? fun value => (Setting.ofName? value.1).isNone with
  | some (name, _) => .error (.unknown name)
  | none =>
    let value (setting : Setting) : Value := (given? values setting).getD (config.get setting)
    (make depths (value .indentWidth) (value .tabWidth) (value .extensions)).mapError
      fun problem => .invalid ⟨problem, none⟩

/-- The configuration of named values, with defaults for the others. -/
def ofValues (depths : Depths) (values : List (String × Value)) : Except SettingFault Config :=
  replace depths standard values

/-- Nothing is given. -/
def isNull : Value → Bool
  | .null => true
  | _ => false

/-- The name that an override has for the configuration it starts from. Nothing can be given under
it, not even a null. -/
def ownName : String := "self"

/-- A configuration with named values in place of its own, where a null says nothing. -/
def override (depths : Depths) (config : Config) (values : List (String × Value)) :
    Except SettingFault Config :=
  if values.any (·.1 == ownName) then .error (.unknown ownName)
  else replace depths config (values.filter fun value => !isNull value.2)

/-- A configuration with another width of a level, if one is given. -/
def withIndentWidth (depths : Depths) (config : Config) : Option Int → Except ConfigError Config
  | none => .ok config
  | some width =>
    (make depths (.int width) (.int config.tabWidth) config.extensions).mapError fun problem =>
      ⟨problem, none⟩

/-! ## Suffixes -/

/-- A text is one of a configuration's suffixes; a value that holds nothing has no answer. -/
def holds? (extensions : Value) (suffix : String) : Option Bool :=
  match extensions with
  | .list items | .tuple items | .set items => some (items.any (·.sameKey (.str suffix)))
  | .mapping entries => some (entries.any (·.1.sameKey (.str suffix)))
  | .str text => some (occursIn suffix.toList text.toList)
  | _ => none

/-- A path has one of the suffixes that the mode is for, in any case. -/
def isTurtlePath? (config : Config) (path : String) : Option Bool :=
  holds? config.extensions (lower (Path.ofString path).suffix)

/-- The suffixes that are texts. -/
def suffixes (config : Config) : List String :=
  ((config.extensions.items?).getD []).filterMap Value.chars?

/-- A suffix holds half of a surrogate pair. -/
def hasTornSuffix (config : Config) : Bool :=
  match config.extensions.items? with
  | some items => items.any fun
    | .torn _ => true
    | _ => false
  | none => false

/-! ## Mappings -/

/-- The warnings of the keys that name no setting, in order. A key that holds too long an integer
is warned of without being shown. At a key that is nested too deeply the warnings break off. -/
def unknownKeys (depth : Nat) : List (Value × Value) → List Event × Except Unshown Unit
  | [] => ([], .ok ())
  | (key, _) :: entries =>
    if (Setting.ofKey? key).isSome then unknownKeys depth entries
    else match key.quote depth with
      | .error .tooDeep => ([], .error .tooDeep)
      | shown =>
        let (events, done) := unknownKeys depth entries
        (.unknownKey shown.toOption :: events, done)

/-- The value of a setting in a mapping. -/
def lookup (entries : List (Value × Value)) (setting : Setting) : Option Value :=
  (entries.find? fun entry => Setting.ofKey? entry.1 = some setting).map Prod.snd

/-- The suffixes of a mapping: a list or a tuple, each item as a text in lower case. -/
def checkExtensions (depths : Depths) (value : Value) : Except ConfigProblem Value :=
  match value.items? with
  | some items =>
    ((items.mapM (Value.lowered depths.suffix)).map .list).mapError .unshown
  | none => .error (showing depths.suffixes value .notList)

/-- The configuration of a mapping's entries; the suffixes are checked before the widths. -/
def ofEntries (depths : Depths) (entries : List (Value × Value)) :
    Except ConfigProblem Config := do
  let extensions ← match lookup entries .extensions with
    | some value => checkExtensions depths value
    | none => pure defaultExtensions
  make depths ((lookup entries .indentWidth).getD (.int defaultIndentWidth))
    ((lookup entries .tabWidth).getD (.int defaultTabWidth)) extensions

/-- The configuration of a mapping from a source, with the report of its unknown keys. -/
def ofMapping (depths : Depths) (entries : List (Value × Value)) (source : Option String) :
    Except ConfigError Config × List Event :=
  let (events, warned) := unknownKeys depths.key entries
  let result : Except ConfigProblem Config := match warned with
    | .error why => .error (.unshown why)
    | .ok () => ofEntries depths entries
  (result.mapError fun problem => ⟨problem, source⟩, events)

end Config

end TurtleEdit
