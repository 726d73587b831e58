import TurtleEdit.Calendar
import TurtleEdit.Limits
import TurtleEdit.Text.Codes

/-!
Why a document gives no value.

Most documents that give none are malformed: their marks do not fit together, or they name a kind
of value that does not exist. The other faults concern a scalar whose text does not fit the kind
it is said to have.
-/

namespace TurtleEdit.Yaml

/-- Why a document gives no value. -/
inductive Fault where
  /-- The document breaks a rule of the format. -/
  | malformed
  /-- A scalar is no integer in a base. -/
  | notInteger (base : Nat) (codes : Codes)
  /-- An integer has more digits than are read. -/
  | tooManyDigits (count : Nat)
  /-- A scalar is no floating-point number. -/
  | notFloat (codes : Codes)
  /-- A part of a number in base sixty stands for more than a floating-point number can hold. -/
  | tooLarge
  /-- A number has no characters. -/
  | emptyNumber
  /-- A scalar is no truth value. -/
  | notBoolean (codes : Codes)
  /-- A scalar is no date. -/
  | notTimestamp
  /-- What should be a date is no scalar. -/
  | notScalar
  /-- A date is not in the calendar. -/
  | notInCalendar (fault : CalendarFault)
  /-- An escape names no character. -/
  | noCharacter (code : Nat)
  /-- Nodes stand in each other more deeply than they are read. -/
  | tooDeep
  deriving DecidableEq, Repr

/-- The wording of a fault. A text that is no integer is shown in part if it is long. -/
def Fault.message : Fault → String
  | malformed => "invalid YAML"
  | notInteger base codes =>
    "invalid literal for int() with base " ++ toString base ++ ": " ++
      String.ofList ((quotedCodes codes).toList.take 200)
  | tooManyDigits count => unreadableMessage count
  | notFloat codes => "could not convert string to float: " ++ quotedCodes codes
  | tooLarge => "int too large to convert to float"
  | emptyNumber => "string index out of range"
  | notBoolean codes => quotedCodes codes
  | notTimestamp => "not a timestamp"
  | notScalar => "expected string or bytes-like object"
  | notInCalendar fault => fault.message
  | noCharacter code =>
    if code ≤ 0x7FFFFFFF then "chr() arg not in range(0x110000)"
    else "character code out of range"
  | tooDeep => "maximum recursion depth exceeded"

end TurtleEdit.Yaml
