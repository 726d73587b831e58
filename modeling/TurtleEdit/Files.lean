import TurtleEdit.Path
import TurtleEdit.Text.Quoted
import TurtleEdit.Text.Utf8

/-!
The files that a command can see: a tree around the place where it runs.

Reading follows a path name by name, so that a missing directory, a file used as one and a
directory used as a file are told apart. The place itself, the directories above it and the root
are always there.
-/

namespace TurtleEdit

/-- Why a path gives no file. -/
inductive FileFault where
  | missing
  | notDirectory
  | isDirectory
  | nameTooLong
  deriving DecidableEq, Repr

/-- The wording of a fault at a path, with its number. -/
def FileFault.message (path : String) : FileFault → String
  | missing => "[Errno 2] No such file or directory: " ++ quoted path
  | notDirectory => "[Errno 20] Not a directory: " ++ quoted path
  | isDirectory => "[Errno 21] Is a directory: " ++ quoted path
  | nameTooLong => "[Errno 36] File name too long: " ++ quoted path

/-- What stands at a path. -/
inductive FileEntry where
  | file (bytes : ByteArray)
  | directory

/-- A tree of files, as entries by the names that lead to them. -/
structure Files where
  entries : List (List String × FileEntry)

namespace Files

/-- A tree without files. -/
def empty : Files := ⟨[]⟩

/-- The names of the root. -/
def root : List String := ["/"]

/-- Names that lead to the place itself, or above it, or to the root. -/
def isGround (names : List String) : Bool := names == root || names.all (· == "..")

/-- The entry at some names. -/
def find? (files : Files) (names : List String) : Option FileEntry :=
  if isGround names then some .directory else files.entries.lookup names

/-- The names after one more name. Two dots lead back; the root leads back to itself. -/
def enter (here : List String) (name : String) : List String :=
  if name = ".." then
    if here = root then here else if here.all (· == "..") then here ++ [".."] else here.dropLast
  else here ++ [name]

/-- The names from which a path is followed. -/
def start (path : Path) : List String := if path.root.isEmpty then [] else root

/-- Puts an entry where none is. -/
def addNew (files : Files) (names : List String) (entry : FileEntry) : Files :=
  match files.find? names with
  | some _ => files
  | none => ⟨files.entries ++ [(names, entry)]⟩

/-- Puts an entry at a path, and directories at the paths that lead to it. -/
def add (files : Files) (path : String) (entry : FileEntry) : Files :=
  let path := Path.ofString path
  let names := path.names.foldl enter (start path)
  let parents := (List.range names.length).map fun n => names.take n
  (parents.foldl (fun files names => files.addNew names .directory) files).addNew names entry

/-- Follows names from a directory: the names that lead to the end, and the entry there. -/
def follow (files : Files) (here : List String) : List String →
    Except FileFault (List String × FileEntry)
  | [] =>
    match files.find? here with
    | some entry => .ok (here, entry)
    | none => .error .missing
  | name :: rest =>
    match files.find? here with
    | none => .error .missing
    | some (.file _) => .error .notDirectory
    | some .directory =>
      if 255 < name.utf8ByteSize then .error .nameTooLong
      else files.follow (enter here name) rest

/-- The names that lead to a path's entry, and the entry. -/
def locate (files : Files) (path : Path) : Except FileFault (List String × FileEntry) :=
  if 4095 < path.render.utf8ByteSize then .error .nameTooLong
  else files.follow (start path) path.names

/-- The bytes of the file at a path. -/
def read (files : Files) (path : Path) : Except FileFault ByteArray :=
  match files.locate path with
  | .ok (_, .file bytes) => .ok bytes
  | .ok (_, .directory) => .error .isDirectory
  | .error fault => .error fault

/-- Replaces the bytes of the file at a path; where no file is, nothing changes. -/
def write (files : Files) (path : Path) (bytes : ByteArray) : Files :=
  match files.locate path with
  | .ok (names, .file _) =>
    ⟨files.entries.map fun entry => if entry.1 = names then (names, .file bytes) else entry⟩
  | _ => files

/-- Why a path gives no text. -/
inductive TextFault where
  /-- A name in the path holds a NUL character, which no file name can. -/
  | nulInPath
  | unreadable (fault : FileFault)
  /-- The byte at the offset starts no character. -/
  | notUtf8 (offset : Nat)
  deriving DecidableEq, Repr

/-- The text of the file at a path, with line feeds as its line ends. -/
def readText (files : Files) (path : Path) : Except TextFault Text :=
  if path.hasNul then .error .nulInPath
  else match files.read path with
    | .error fault => .error (.unreadable fault)
    | .ok bytes =>
      match decodeUtf8 bytes with
      | .error offset => .error (.notUtf8 offset)
      | .ok text => .ok (unifyNewlines text)

end Files

end TurtleEdit
