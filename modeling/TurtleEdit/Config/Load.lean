import TurtleEdit.Config.Basic
import TurtleEdit.Files
import TurtleEdit.Yaml.Build

/-!
Configurations from files.

A file that holds no document, or an empty one, gives the defaults. Bytes that are no text,
scalars that do not fit the kind they name and paths that cannot be are no error of the
configuration: they are passed on as they are.
-/

namespace TurtleEdit

/-- Why a file gives no configuration. -/
inductive LoadFault where
  | invalid (error : ConfigError)
  /-- The path holds a NUL character. -/
  | nulInPath
  /-- The byte at the offset starts no character. -/
  | notUtf8 (offset : Nat)
  /-- A scalar does not fit its kind. -/
  | badValue (fault : Yaml.Fault)
  deriving Repr

namespace Config

/-- The entries of a document's mapping. Only values of settings are unfolded; the items of the
suffixes are taken one by one. -/
def documentEntries (document : Yaml.Document) (entries : List (Yaml.Item × Yaml.Item)) :
    List (Value × Value) :=
  entries.map fun (key, value) =>
    let key := document.value key
    match Setting.ofKey? key with
    | some .extensions => (key, document.spread value)
    | some _ => (key, document.value value)
    | none => (key, .null)

/-- The configuration of a document's text. -/
def ofDocument (depths : Depths) (text : Text) (source : String) :
    Except LoadFault Config × List Event :=
  let invalid (problem : ConfigProblem) : LoadFault := .invalid ⟨problem, some source⟩
  match Yaml.load text with
  | .error .malformed => (.error (invalid .invalidDocument), [])
  | .error fault => (.error (.badValue fault), [])
  | .ok document =>
    match document.root, document.entries? with
    | .scalar .null _, _ => (.ok standard, [])
    | _, some entries =>
      let (config, events) := ofMapping depths (documentEntries document entries) (some source)
      (config.mapError .invalid, .loaded source :: events)
    | _, none => (.error (invalid .notMapping), [])

/-- The configuration of a file. -/
def load (depths : Depths) (files : Files) (path : String) :
    Except LoadFault Config × List Event :=
  let place := Path.ofString path
  match files.readText place with
  | .error .nulInPath => (.error .nulInPath, [])
  | .error (.unreadable fault) =>
    (.error (.invalid ⟨.unreadable (fault.message place.render), some path⟩), [])
  | .error (.notUtf8 offset) => (.error (.notUtf8 offset), [])
  | .ok text => ofDocument depths text path

end Config

end TurtleEdit
