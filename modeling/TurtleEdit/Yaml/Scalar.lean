import TurtleEdit.Value
import TurtleEdit.Yaml.Fault
import TurtleEdit.Yaml.Kind

/-!
The values of scalars.

A scalar is read as its kind says. Integers have a base mark, a leading zero for base eight, or
parts in base sixty divided by colons, and so have floating-point numbers without the bases.
Underscores do not count. A scalar with a half of a surrogate pair can be a text only.
-/

namespace TurtleEdit.Yaml

/-- The code points of a word. -/
def wordCodes (word : String) : Codes := codesOf word.toList

/-- Code points without their underscores. -/
def dropUnderscores (codes : Codes) : Codes := codes.filter (· != 0x5F)

/-- A truth value. -/
def boolValue (codes : Codes) : Except Fault Value :=
  let word := lowerCodes codes
  if word = wordCodes "yes" ∨ word = wordCodes "true" ∨ word = wordCodes "on" then .ok (.bool true)
  else if word = wordCodes "no" ∨ word = wordCodes "false" ∨ word = wordCodes "off" then
    .ok (.bool false)
  else .error (.notBoolean word)

/-! ## Numbers -/

/-- A sign and the code points after it. -/
def splitSignCodes (codes : Codes) : Bool × Codes :=
  match codes with
  | first :: rest =>
    if first = 0x2D then (true, rest) else (false, if first = 0x2B then rest else codes)
  | [] => (false, [])

/-- The pieces of code points between the colons. -/
def splitColons : Codes → List Codes
  | [] => [[]]
  | n :: rest =>
    if n = 0x3A then [] :: splitColons rest
    else match splitColons rest with
      | piece :: pieces => (n :: piece) :: pieces
      | [] => [[n]]

/-- An integer in a base. -/
def intInBase (base : Nat) (codes : Codes) : Except Fault Int :=
  match codes.text?.map (readInt base) with
  | some (.ok n) => .ok n
  | some (.error (.tooManyDigits count)) => .error (.tooManyDigits count)
  | _ => .error (.notInteger base codes)

/-- An integer without its sign. -/
def unsignedInt (codes : Codes) : Except Fault Int :=
  if codes.isEmpty then .error .emptyNumber
  else if codes = wordCodes "0" then .ok 0
  else if (wordCodes "0b").isPrefixOf codes then intInBase 2 (codes.drop 2)
  else if (wordCodes "0x").isPrefixOf codes then intInBase 16 (codes.drop 2)
  else if (wordCodes "0").isPrefixOf codes then intInBase 8 codes
  else if codes.contains 0x3A then do
    let parts ← (splitColons codes).mapM (intInBase 10)
    return parts.foldl (fun n part => n * 60 + part) 0
  else intInBase 10 codes

/-- An integer. -/
def intValue (codes : Codes) : Except Fault Value := do
  let codes := dropUnderscores codes
  if codes.isEmpty then throw .emptyNumber
  let (negative, unsigned) := splitSignCodes codes
  let n ← unsignedInt unsigned
  return .int (if negative then -n else n)

/-- A floating-point number in base ten. -/
def floatPart (codes : Codes) : Except Fault Binary64 :=
  match codes.text?.bind readFloat? with
  | some x => .ok x
  | none => .error (.notFloat codes)

/-- The sum of parts in base sixty, the last part first, each rounded as it is added. The weight of
a part has to be a number of the format. -/
def sixtieths (sum : Binary64) (weight : Nat) : List Binary64 → Except Fault Binary64
  | [] => .ok sum
  | part :: parts =>
    match Binary64.ofRatio false weight 1 with
    | .infinite _ => .error .tooLarge
    | unit => sixtieths (sum.add (part.mul unit)) (weight * 60) parts

/-- A floating-point number without its sign. -/
def unsignedFloat (codes : Codes) : Except Fault Binary64 :=
  if codes = wordCodes ".inf" then .ok (.infinite false)
  else if codes = wordCodes ".nan" then .ok .nan
  else if codes.contains 0x3A then do
    let parts ← (splitColons codes).mapM floatPart
    sixtieths (.ofRatio false 0 1) 1 parts.reverse
  else floatPart codes

/-- The code points of a floating-point number as they are read: in lower case. -/
def floatCodes (codes : Codes) : Codes := lowerCodes (dropUnderscores codes)

/-- A floating-point number. -/
def floatValue (codes : Codes) : Except Fault Value := do
  let codes := floatCodes codes
  if codes.isEmpty then throw .emptyNumber
  let (negative, unsigned) := splitSignCodes codes
  let x ← unsignedFloat unsigned
  return .float (if negative then x.neg else x)

/-- A scalar is the word for no number, which always gives one and the same value. -/
def isNanWord (codes : Codes) : Bool := (splitSignCodes (floatCodes codes)).2 == wordCodes ".nan"

/-! ## Dates and bytes -/

/-- A date or a moment. One line feed may stand after it. -/
def timestampValue (codes : Codes) : Except Fault Value :=
  match codes.text?.bind fun text => stamp? (dropFinalFeed text) with
  | none => .error .notTimestamp
  | some stamp =>
    match stamp.time with
    | none => ((Date.make stamp.year stamp.month stamp.day).map Value.date).mapError .notInCalendar
    | some (hour, minute, second, microsecond) =>
      ((Moment.make stamp.year stamp.month stamp.day hour minute second microsecond
        stamp.offset).map Value.moment).mapError .notInCalendar

/-- The six bits of a character of bytes written as text. -/
def sextet? (c : Char) : Option Nat :=
  if c.isUpper then some (c.toNat - 0x41)
  else if c.isLower then some (c.toNat - 0x47)
  else if c.isDigit then some (c.toNat + 4)
  else if c = '+' then some 62
  else if c = '/' then some 63
  else none

/-- Bytes written as text, four characters to three bytes. `place` counts the characters of the
present four and `left` holds the bits not yet used; other characters are passed over. -/
def bytesFrom (place left padding : Nat) : Text → Option (List UInt8)
  | [] => if place = 0 then some [] else none
  | c :: rest =>
    if c = '=' then
      if 2 ≤ place ∧ 4 ≤ place + padding + 1 then some []
      else bytesFrom place left (if 2 ≤ place then padding + 1 else padding) rest
    else
      match sextet? c with
      | none => bytesFrom place left padding rest
      | some bits =>
        match place with
        | 0 => bytesFrom 1 bits 0 rest
        | 1 => (bytesFrom 2 (bits % 16) 0 rest).map (UInt8.ofNat (left * 4 + bits / 16) :: ·)
        | 2 => (bytesFrom 3 (bits % 4) 0 rest).map (UInt8.ofNat (left * 16 + bits / 4) :: ·)
        | _ => (bytesFrom 0 0 0 rest).map (UInt8.ofNat (left * 64 + bits) :: ·)

/-- Bytes. -/
def binaryValue (codes : Codes) : Except Fault Value :=
  if codes.all (· < 0x80) then
    match bytesFrom 0 0 0 (codes.map Char.ofNat) with
    | some bytes => .ok (.bytes bytes)
    | none => .error .malformed
  else .error .malformed

/-- The value of a scalar. -/
def scalarValue (kind : Kind) (codes : Codes) : Except Fault Value :=
  match kind with
  | .null => .ok .null
  | .bool => boolValue codes
  | .int => intValue codes
  | .float => floatValue codes
  | .binary => binaryValue codes
  | .timestamp => timestampValue codes
  | .str => .ok (.ofCodes codes)
  | _ => .error .malformed

end TurtleEdit.Yaml
