import TurtleEdit.Text.Blank

/-!
Long strings as an editor sees them: the triple quotes of a text, paired from its start.

The delimiters are found from left to right and never overlap, so a run of four quotes holds one.
The first opens a string, the second closes it, and so on; an unpaired last one opens a string
that runs to the end of the text. Escapes are not looked at.
-/

namespace TurtleEdit

/-- The offsets of the delimiters of a text that starts at `offset`. -/
def delimitersFrom (offset : Nat) : Text → List Nat
  | '"' :: '"' :: '"' :: rest => offset :: delimitersFrom (offset + 3) rest
  | _ :: rest => delimitersFrom (offset + 1) rest
  | [] => []

/-- The offsets of every triple quote, found from left to right without overlap. -/
def delimiters (text : Text) : List Nat := delimitersFrom 0 text

/-- A long string: the offset of its opening delimiter and of its closing one, if there is one. -/
structure LongString where
  opener : Nat
  closer : Option Nat
  deriving DecidableEq, Repr

namespace LongString

/-- Delimiters paired from the left. -/
def pair : List Nat → List LongString
  | opener :: closer :: rest => ⟨opener, some closer⟩ :: pair rest
  | [opener] => [⟨opener, none⟩]
  | [] => []

/-- The long strings of a text, in order. -/
def all (text : Text) : List LongString := pair (delimiters text)

/-- The offset after the string in a text of `size` characters. -/
def stop (size : Nat) (long : LongString) : Nat :=
  match long.closer with
  | some closer => closer + 3
  | none => size

/-- The offset lies inside the string: after its start and before its end, where a string that is
never closed has no end. -/
def holds (long : LongString) (pos : Nat) : Bool :=
  long.opener < pos && match long.closer with
    | some closer => pos < closer + 3
    | none => true

end LongString

end TurtleEdit
