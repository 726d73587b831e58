import TurtleEdit.Number.Binary64
import TurtleEdit.Limits
import TurtleEdit.Text.Blank

/-!
Reading numbers from text.

Decimal digits of every script count. Blanks around a number and a sign before it are allowed, and
a single underscore may stand between two digits. Integers of too many decimal digits are refused.
-/

namespace TurtleEdit

/-- The zeros of the decimal digits beyond ASCII; the nine other digits follow each. -/
def digitZeros : List Nat := [
  0x660, 0x6F0, 0x7C0, 0x966, 0x9E6, 0xA66, 0xAE6, 0xB66, 0xBE6, 0xC66, 0xCE6, 0xD66, 0xDE6,
  0xE50, 0xED0, 0xF20, 0x1040, 0x1090, 0x17E0, 0x1810, 0x1946, 0x19D0, 0x1A80, 0x1A90, 0x1B50,
  0x1BB0, 0x1C40, 0x1C50, 0xA620, 0xA8D0, 0xA900, 0xA9D0, 0xA9F0, 0xAA50, 0xABF0, 0xFF10, 0x104A0,
  0x10D30, 0x11066, 0x110F0, 0x11136, 0x111D0, 0x112F0, 0x11450, 0x114D0, 0x11650, 0x116C0,
  0x11730, 0x118E0, 0x11950, 0x11C50, 0x11D50, 0x11DA0, 0x16A60, 0x16AC0, 0x16B50, 0x1D7CE,
  0x1D7D8, 0x1D7E2, 0x1D7EC, 0x1D7F6, 0x1E140, 0x1E2F0, 0x1E950, 0x1FBF0]

/-- The value of a decimal digit of any script. -/
def digitValue? (c : Char) : Option Nat :=
  if c.toNat < 0x80 then
    if c.isDigit then some (c.toNat - 0x30) else none
  else (digitZeros.find? fun first => first ≤ c.toNat && c.toNat < first + 10).map (c.toNat - ·)

/-- The value of a digit or ASCII letter as a digit of a base up to 36. -/
def digitInBase? (base : Nat) (c : Char) : Option Nat :=
  let value := match digitValue? c with
    | some value => some value
    | none =>
      if 'a' ≤ c ∧ c ≤ 'z' then some (c.toNat - 0x57)
      else if 'A' ≤ c ∧ c ≤ 'Z' then some (c.toNat - 0x37)
      else none
  value.filter (· < base)

/-- A digit of base 16 in ASCII. -/
def isHexDigit (c : Char) : Bool :=
  c.isDigit || ('a' ≤ c && c ≤ 'f') || ('A' ≤ c && c ≤ 'F')

/-- Reads digits up to the end; `afterDigit` tells that a digit came just before. -/
def digitsFrom (base : Nat) (value : Nat) (afterDigit : Bool) : Text → Option Nat
  | [] => if afterDigit then some value else none
  | '_' :: rest => if afterDigit then digitsFrom base value false rest else none
  | c :: rest =>
    match digitInBase? base c with
    | some digit => digitsFrom base (value * base + digit) true rest
    | none => none

/-- A sign and the text after it. -/
def splitSign : Text → Bool × Text
  | '-' :: rest => (true, rest)
  | '+' :: rest => (false, rest)
  | text => (false, text)

/-- The digits after the mark of their base, where they have one: `0b`, `0o` or `0x` in either
case, which an underscore may follow. -/
def dropBaseMark (base : Nat) : Text → Text
  | '0' :: mark :: rest =>
    let marked := match base with
      | 2 => mark == 'b' || mark == 'B'
      | 8 => mark == 'o' || mark == 'O'
      | 16 => mark == 'x' || mark == 'X'
      | _ => false
    if marked then
      match rest with
      | '_' :: rest => rest
      | rest => rest
    else '0' :: mark :: rest
  | text => text

/-- Why a text gives no integer. -/
inductive IntFault where
  | notInteger
  /-- The text starts with more decimal digits than are read. -/
  | tooManyDigits (count : Nat)
  deriving DecidableEq, Repr

/-- Every underscore of a run of digits stands between two of them. -/
def underscoresFit (afterDigit : Bool) : Text → Bool
  | [] => afterDigit
  | c :: rest =>
    if c = '_' then afterDigit && underscoresFit false rest else underscoresFit true rest

/-- The digits at the start of a text, counted; underscores between them do not count, and one that
is out of place leaves nothing to count. -/
def countDigits (base : Nat) (text : Text) : Nat :=
  let run := text.takeWhile fun c => c == '_' || (digitInBase? base c).isSome
  if underscoresFit false run then (run.filter (· != '_')).length else 0

/-- Reads an integer written in a base. In base ten the digits are counted first. -/
def readInt (base : Nat) (text : Text) : Except IntFault Int :=
  let (negative, rest) := splitSign (trimBlanks text)
  let count := if base = 10 then countDigits base rest else 0
  if digitLimit < count then .error (.tooManyDigits count)
  else match digitsFrom base 0 false (dropBaseMark base rest) with
    | some n => .ok (if negative then -(n : Int) else n)
    | none => .error .notInteger

/-- Digits at the start of a text, with underscores between them, and the text after them. -/
def takeDigits : Text → List Nat × Text
  | [] => ([], [])
  | c :: rest =>
    match digitValue? c with
    | none => ([], c :: rest)
    | some digit =>
      match rest with
      | '_' :: next :: more =>
        if (digitValue? next).isSome then
          let (digits, after) := takeDigits (next :: more)
          (digit :: digits, after)
        else ([digit], '_' :: next :: more)
      | rest =>
        let (digits, after) := takeDigits rest
        (digit :: digits, after)

/-- The value of decimal digits. -/
def ofDigits (digits : List Nat) : Nat := digits.foldl (fun n d => n * 10 + d) 0

/-- Reads an exponent: nothing, or a mark, a sign and digits up to the end. -/
def readExponent? : Text → Option Int
  | [] => some 0
  | mark :: rest =>
    if mark == 'e' || mark == 'E' then
      let (negative, rest) := splitSign rest
      match takeDigits rest with
      | (digit :: digits, []) =>
        let n := ofDigits (digit :: digits)
        some (if negative then -(n : Int) else n)
      | _ => none
    else none

/-- Reads the digits of a number, its point and its exponent. -/
def readDecimal? (negative : Bool) (text : Text) : Option Binary64 :=
  let (whole, rest) := takeDigits text
  let (fraction, rest) := match rest with
    | '.' :: rest => takeDigits rest
    | rest => ([], rest)
  if whole.isEmpty && fraction.isEmpty then none
  else (readExponent? rest).map fun e =>
    .ofDecimal negative (ofDigits (whole ++ fraction)) (e - fraction.length)

/-- Reads a floating-point number, a word for infinity or for no number included. -/
def readFloat? (text : Text) : Option Binary64 :=
  let (negative, rest) := splitSign (trimBlanks text)
  let word := String.ofList (rest.map Char.toLower)
  if word = "inf" ∨ word = "infinity" then some (.infinite negative)
  else if word = "nan" then some .nan
  else readDecimal? negative rest

end TurtleEdit
