import TurtleEdit.Text.Blank

/-!
Paths of files, and the suffix of a file's name.

Slashes divide a path into names. Empty names and single dots say nothing and are dropped; two dots
lead back and stay. Two slashes at the start, but not three, make a root of their own.
-/

namespace TurtleEdit

/-- A path: its root, which is empty for a relative one, and its names. -/
structure Path where
  root : String
  names : List String
  deriving DecidableEq, Repr

namespace Path

/-- The root of a written path. -/
def rootOf : Text → String
  | '/' :: '/' :: '/' :: _ => "/"
  | '/' :: '/' :: _ => "//"
  | '/' :: _ => "/"
  | _ => ""

/-- The path that a text writes. -/
def ofString (text : String) : Path :=
  ⟨rootOf text.toList,
    ((splitAt '/' text.toList).filter fun name => !name.isEmpty && name != ['.']).map
      String.ofList⟩

/-- The path as a text; an empty one is the place itself. -/
def render (path : Path) : String :=
  if path.root.isEmpty && path.names.isEmpty then "."
  else path.root ++ "/".intercalate path.names

/-- Some name holds a NUL character. -/
def hasNul (path : Path) : Bool := path.names.any fun name => name.toList.any (·.toNat == 0)

/-- The last name of a path. -/
def fileName (path : Path) : String := path.names.getLast?.getD ""

/-- The part of a name from its last dot on. A dot that starts or ends the name starts no
suffix. -/
def suffixOf (name : Text) : Text :=
  let after := (name.reverse.takeWhile (· != '.')).length
  if after = 0 ∨ name.length ≤ after + 1 then [] else name.drop (name.length - after - 1)

/-- The suffix of the last name of a path. -/
def suffix (path : Path) : String := String.ofList (suffixOf path.fileName.toList)

end Path

end TurtleEdit
