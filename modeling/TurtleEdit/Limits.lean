/-!
What can be held, and what can be written.

A text has only so many characters as the machine has room for. Turning a long integer into digits,
or digits into a long integer, takes time that grows faster than their number, so integers beyond a
limit are neither read nor written in base ten. And a value that holds other values is written level
by level, which goes only so deep: how deep depends on how far the work has got where the value is
to be written.

The limit on digits is fixed. The room and the depths are those of a machine; whatever is said of
texts and settings is said for all of them.
-/

namespace TurtleEdit

/-! ## Integers -/

/-- The most decimal digits that are read or written. -/
def digitLimit : Nat := 4300

/-- An integer has few enough decimal digits to be written. -/
def isWritable (n : Int) : Bool := n.natAbs < Nat.pow 10 digitLimit

/-- What is said of an integer that is not written. -/
def unwritableMessage : String :=
  "Exceeds the limit (" ++ toString digitLimit ++ " digits) for integer string conversion; use " ++
    "sys.set_int_max_str_digits() to increase the limit"

/-- What is said of digits that are not read. -/
def unreadableMessage (count : Nat) : String :=
  "Exceeds the limit (" ++ toString digitLimit ++ " digits) for integer string conversion: " ++
    "value has " ++ toString count ++ " digits; use sys.set_int_max_str_digits() to increase " ++
    "the limit"

/-- Why something cannot be written. -/
inductive Unshown where
  /-- It holds an integer of too many digits. -/
  | tooLong
  /-- It holds values in each other more deeply than they can be written. -/
  | tooDeep
  deriving DecidableEq, Repr

/-- What is said of something that cannot be written. -/
def Unshown.message : Unshown → String
  | tooLong => unwritableMessage
  | tooDeep => "maximum recursion depth exceeded while getting the repr of an object"

/-- The digits of an integer, if there are few enough of them. -/
def digits? (n : Int) : Option String := if isWritable n then some (toString n) else none

/-! ## Machines -/

/-- A text of any machine has fewer characters than this. -/
def roomBound : Nat := Nat.pow 2 63

/-- The most characters that a text can have. -/
structure Room where
  size : Nat
  bounded : size < roomBound
  deriving DecidableEq, Repr

/-- The room of a machine whose memory has no end. -/
def Room.widest : Room := ⟨roomBound - 1, by decide⟩

/-- How many levels of a value can be written, by what they are written for. -/
structure Depths where
  /-- A key that names no setting, in a warning. -/
  key : Nat
  /-- A value that is no list of suffixes, in an error. -/
  suffixes : Nat
  /-- An item of the suffixes, as a text. -/
  suffix : Nat
  /-- A value that is no width, in an error. -/
  width : Nat
  deriving DecidableEq, Repr

/-- What a program has to run on. -/
structure Machine where
  room : Room
  depths : Depths
  deriving DecidableEq, Repr

end TurtleEdit
