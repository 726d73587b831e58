import TurtleEdit.Number.Reading
import TurtleEdit.Text.Codes

/-!
The kinds of values that a document names, and the kind that a plain scalar has by its text.

A plain scalar is a number, a date, a truth value or nothing when it is written as one, and a text
otherwise. Integers may have a base mark, a leading zero for base eight, underscores, or parts in
base sixty divided by colons; floating-point numbers need a point, and their exponent a sign.
-/

namespace TurtleEdit.Yaml

/-- The kind of a value. -/
inductive Kind where
  | null
  | bool
  | int
  | float
  | binary
  | timestamp
  | omap
  | pairs
  | set
  | str
  | seq
  | map
  /-- A key whose value's entries join the mapping. -/
  | merge
  /-- The key of a mapping's default value. -/
  | equals
  /-- A kind that has no values. -/
  | unknown
  deriving DecidableEq, Repr

/-- The start of the tags of the standard kinds. -/
def standardTag : Text := "tag:yaml.org,2002:".toList

/-- The standard kinds by the ends of their tags. -/
def standardKinds : List (String × Kind) := [
  ("null", .null), ("bool", .bool), ("int", .int), ("float", .float), ("binary", .binary),
  ("timestamp", .timestamp), ("omap", .omap), ("pairs", .pairs), ("set", .set), ("str", .str),
  ("seq", .seq), ("map", .map), ("merge", .merge), ("value", .equals)]

/-- The kind that a tag names. -/
def Kind.ofTag (tag : Text) : Kind :=
  if standardTag.isPrefixOf tag then
    (standardKinds.lookup (String.ofList (tag.drop standardTag.length))).getD .unknown
  else .unknown

/-! ## Words -/

/-- The text is one of some words. -/
def isOneOf (words : List String) (text : Text) : Bool := words.any (·.toList == text)

/-- A word for nothing. -/
def isNullWord (text : Text) : Bool := isOneOf ["", "~", "null", "Null", "NULL"] text

/-- A word for a truth value. -/
def isBoolWord (text : Text) : Bool :=
  isOneOf ["yes", "Yes", "YES", "no", "No", "NO", "true", "True", "TRUE", "false", "False", "FALSE",
    "on", "On", "ON", "off", "Off", "OFF"] text

/-! ## Numbers -/

/-- A digit or an underscore. -/
def isDigitMark (c : Char) : Bool := c.isDigit || c == '_'

/-- Digits and underscores, a digit first. -/
def isDigitRun : Text → Bool
  | c :: rest => c.isDigit && rest.all isDigitMark
  | [] => false

/-- A part in base sixty: a digit, or two of which the first is below six. -/
def isSixtieth : Text → Bool
  | [c] => c.isDigit
  | [c, d] => '0' ≤ c && c ≤ '5' && d.isDigit
  | _ => false

/-- An exponent with its sign, or nothing. -/
def isExponent : Text → Bool
  | [] => true
  | mark :: sign :: digits =>
    (mark == 'e' || mark == 'E') && (sign == '-' || sign == '+') && !digits.isEmpty &&
      digits.all Char.isDigit
  | _ => false

/-- An integer without its sign. -/
def isUnsignedInt (text : Text) : Bool :=
  match text with
  | ['0'] => true
  | '0' :: 'b' :: rest => !rest.isEmpty && rest.all fun c => c == '0' || c == '1' || c == '_'
  | '0' :: 'x' :: rest => !rest.isEmpty && rest.all fun c => isDigitMark c ||
      ('a' ≤ c && c ≤ 'f') || ('A' ≤ c && c ≤ 'F')
  | '0' :: rest => rest.all fun c => ('0' ≤ c && c ≤ '7') || c == '_'
  | _ =>
    match splitAt ':' text with
    | whole :: parts => isDigitRun whole && parts.all isSixtieth
    | [] => false

/-- A floating-point number without its sign: digits around a point, with an exponent or with
parts in base sixty before the point. -/
def isUnsignedFloat (text : Text) : Bool :=
  match text.dropWhile (· != '.') with
  | '.' :: rest =>
    let before := text.takeWhile (· != '.')
    let fraction := rest.takeWhile isDigitMark
    let after := rest.drop fraction.length
    match splitAt ':' before with
    | [whole] => isDigitRun whole && isExponent after
    | whole :: parts => isDigitRun whole && parts.all isSixtieth && after.isEmpty
    | [] => false
  | _ => false

/-- A floating-point number that starts with its point, which takes no sign. -/
def isBareFraction : Text → Bool
  | '.' :: rest =>
    isDigitRun (rest.takeWhile isDigitMark) && isExponent (rest.dropWhile isDigitMark)
  | _ => false

/-- An integer. -/
def isIntText (text : Text) : Bool := isUnsignedInt (splitSign text).2

/-- A floating-point number. -/
def isFloatText (text : Text) : Bool :=
  let unsigned := (splitSign text).2
  isUnsignedFloat unsigned || isBareFraction text ||
    isOneOf [".inf", ".Inf", ".INF"] unsigned || isOneOf [".nan", ".NaN", ".NAN"] text

/-! ## Dates -/

/-- The numbers of a date and a time, as they are written. -/
structure Stamp where
  year : Nat
  month : Nat
  day : Nat
  /-- Hour, minute, second and microsecond. -/
  time : Option (Nat × Nat × Nat × Nat)
  /-- The offset in minutes. -/
  offset : Option Int
  deriving DecidableEq, Repr

/-- At least `least` and at most `most` digits at the start of a text, and the text after them. -/
def someDigits (least most : Nat) (text : Text) : Option (Nat × Text) :=
  let digits := (text.take most).takeWhile Char.isDigit
  if digits.length < least then none
  else some (ofDigits (digits.map (·.toNat - 0x30)), text.drop digits.length)

/-- A character at the start of a text is passed. -/
def passChar (c : Char) : Text → Option Text
  | d :: rest => if c = d then some rest else none
  | [] => none

/-- The microseconds of a fraction of a second, whose further digits are dropped. -/
def microseconds (digits : Text) : Nat :=
  ofDigits (((digits ++ List.replicate 6 '0').take 6).map (·.toNat - 0x30))

/-- The offset at the end of a time: nothing, the letter for universal time, or a sign and hours,
perhaps with minutes. -/
def stampOffset? (text : Text) : Option (Option Int) :=
  if text.isEmpty then some none
  else
    match text.dropWhile fun c => c == ' ' || c == '\t' with
    | ['Z'] => some (some 0)
    | sign :: rest => do
      if sign != '-' && sign != '+' then none
      let (hours, rest) ← someDigits 1 2 rest
      let (minutes, rest) ← match rest with
        | ':' :: rest => someDigits 2 2 rest
        | rest => some (0, rest)
      if !rest.isEmpty then none
      let offset : Int := hours * 60 + minutes
      return some (if sign = '-' then -offset else offset)
    | [] => none

/-- The time after a date. -/
def stampTime? (text : Text) : Option ((Nat × Nat × Nat × Nat) × Option Int) := do
  let (hour, rest) ← someDigits 1 2 text
  let (minute, rest) ← someDigits 2 2 (← passChar ':' rest)
  let (second, rest) ← someDigits 2 2 (← passChar ':' rest)
  let (fraction, rest) := match rest with
    | '.' :: rest => (microseconds (rest.takeWhile Char.isDigit), rest.dropWhile Char.isDigit)
    | rest => (0, rest)
  return ((hour, minute, second, fraction), ← stampOffset? rest)

/-- The numbers of a date, perhaps with a time. -/
def stamp? (text : Text) : Option Stamp := do
  let (year, rest) ← someDigits 4 4 text
  let (month, rest) ← someDigits 1 2 (← passChar '-' rest)
  let (day, rest) ← someDigits 1 2 (← passChar '-' rest)
  match rest with
  | [] => return ⟨year, month, day, none, none⟩
  | c :: after =>
    let rest := if c = 'T' ∨ c = 't' then after
      else rest.dropWhile fun c => c == ' ' || c == '\t'
    if rest.length = after.length + 1 then none
    let (time, offset) ← stampTime? rest
    return ⟨year, month, day, some time, offset⟩

/-- A date that a plain scalar may be: month and day have two digits unless a time follows. -/
def isStampText (text : Text) : Bool :=
  match stamp? text with
  | some stamp => stamp.time.isSome || text.length == 10
  | none => false

/-! ## The kind of a plain scalar -/

/-- A text without one line feed at its end. -/
def dropFinalFeed (text : Text) : Text :=
  if text.getLast? = some '\n' then text.dropLast else text

/-- The kind that a text without a line feed at its end implies. -/
def impliedByLine (text : Text) : Kind :=
  if isNullWord text then .null
  else if isBoolWord text then .bool
  else if isFloatText text then .float
  else if isIntText text then .int
  else if isStampText text then .timestamp
  else if isOneOf ["<<"] text then .merge
  else if isOneOf ["="] text then .equals
  else if isOneOf ["!", "&", "*"] text then .unknown
  else .str

/-- The kind that code points imply. One line feed at the end does not count, unless nothing else is
there; a half of a pair belongs to texts only. -/
def impliedKind (codes : Codes) : Kind :=
  match codes.text? with
  | none => .str
  | some text => if text.head? = some '\n' then .str else impliedByLine (dropFinalFeed text)

end TurtleEdit.Yaml
