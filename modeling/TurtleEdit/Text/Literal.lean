import TurtleEdit.Number.Reading
import TurtleEdit.Text.Casing
import TurtleEdit.Text.Quoted
import TurtleEdit.Text.Word

/-!
Literals: numbers, quoted texts, fixed words, and groups of them.

A literal is a number, real or imaginary, with a sign at most; a real and an imaginary number added;
quoted texts side by side; one of the words `True`, `False` and `None`, or three full stops; a group
in round brackets; or a set or a table in curly ones, whose members and keys must not hold a set or
a table. Line feeds and comments may stand inside brackets.
-/

namespace TurtleEdit

namespace Literal

/-- A part of a literal. -/
inductive Token where
  | number (imaginary : Bool)
  | quoted (bytes : Bool)
  /-- A word that stands for a value of its own. -/
  | constant
  /-- The word for a set, which only an empty group may follow. -/
  | setWord
  | sign
  | mark (c : Char)
  | lineEnd
  deriving DecidableEq, Repr

/-! ## Numbers -/

/-- How many characters digits take at the start of a text, with single underscores between them or
before the first. -/
def digitRun (isDigit : Char → Bool) : Text → Nat
  | '_' :: c :: rest => if isDigit c then digitRun isDigit rest + 2 else 0
  | c :: rest => if isDigit c then digitRun isDigit rest + 1 else 0
  | [] => 0

/-- How many characters decimal digits take at the start of a text. -/
def decimalRun (text : Text) : Nat :=
  if (text.head?.map Char.isDigit).getD false then digitRun Char.isDigit text else 0

/-- A digit of the base that a letter after a zero stands for. -/
def digitOfBase? (letter : Char) : Option (Char → Bool) :=
  match letter.toLower with
  | 'x' => some isHexDigit
  | 'o' => some fun c => '0' ≤ c && c ≤ '7'
  | 'b' => some fun c => c == '0' || c == '1'
  | _ => none

/-- The length of an exponent, 0 where there is none. -/
def exponentRun (text : Text) : Nat :=
  match text with
  | c :: rest =>
    let sign := if (rest.head?.map fun c => c == '+' || c == '-').getD false then 1 else 0
    let digits := decimalRun (rest.drop sign)
    if c.toLower == 'e' && digits != 0 then digits + sign + 1 else 0
  | [] => 0

/-- The length of a full stop and the digits after it, which may be missing. -/
def fractionRun : Text → Nat
  | '.' :: rest => decimalRun rest + 1
  | _ => 0

/-- Digits of an integer: not too many, and none but zeros after a zero. -/
def isWhole (text : Text) : Bool :=
  let digits := text.filter (· != '_')
  digits.length ≤ digitLimit && (digits.head? != some '0' || digits.all (· == '0'))

/-- A decimal number: whether it is imaginary, and its length. -/
def decimal? (text : Text) : Option (Bool × Nat) :=
  let whole := decimalRun text
  let fraction := fractionRun (text.drop whole)
  let exponent := exponentRun (text.drop (whole + fraction))
  let length := whole + fraction + exponent
  let imaginary := (text.drop length).head?.any (·.toLower == 'j')
  if fraction + exponent = 0 && !imaginary && !isWhole (text.take whole) then none
  else some (imaginary, if imaginary then length + 1 else length)

/-- A number: whether it is imaginary, and its length. No letter or digit may follow. -/
def number? (text : Text) : Option (Bool × Nat) := do
  let based := match text with
    | '0' :: letter :: rest => (digitOfBase? letter).map (digitRun · rest)
    | _ => none
  let (imaginary, length) ← match based with
    | some 0 => none
    | some digits => some (false, digits + 2)
    | none => decimal? text
  if (text.drop length).head?.any isWord then none else some (imaginary, length)

/-! ## Quoted texts -/

/-- A kind of quoted text: one of bytes, and one where backslashes stand for themselves. -/
structure Quoting where
  bytes : Bool
  raw : Bool

/-- The kind of quoted text that letters before the mark announce. -/
def quoting? (letters : Text) : Option Quoting :=
  match letters.map Char.toLower with
  | [] | ['u'] => some ⟨false, false⟩
  | ['r'] => some ⟨false, true⟩
  | ['b'] => some ⟨true, false⟩
  | ['b', 'r'] | ['r', 'b'] => some ⟨true, true⟩
  | _ => none

/-- Digits of base 16 at the start of a text, a fixed number of them, as a number. -/
def hexValue? (count : Nat) (text : Text) : Option Nat :=
  let digits := text.take count
  if digits.length = count && digits.all isHexDigit then digitsFrom 16 0 false digits else none

/-- Characters after a backslash can be read. -/
def escapeFits (quoting : Quoting) : Text → Bool
  | 'x' :: rest => (hexValue? 2 rest).isSome
  | 'u' :: rest => quoting.bytes || (hexValue? 4 rest).isSome
  | 'U' :: rest => quoting.bytes || (hexValue? 8 rest).any (· ≤ 0x10FFFF)
  | 'N' :: rest => quoting.bytes ||
    (rest.head? == some '\x7b' &&
      1 < ((rest.takeWhile (· != '\x7d')).length) && rest.contains '\x7d')
  | _ => true

/-- How many characters a quoted text takes up to and with its closing marks, from a place where
`length` are read. -/
def quotedLength? (quoting : Quoting) (marks : Text) (length : Nat) : Text → Option Nat
  | [] => none
  | c :: rest =>
    if marks.isPrefixOf (c :: rest) then some (length + marks.length)
    else if quoting.bytes && 0x80 ≤ c.toNat then none
    else if c == '\\' then
      match rest with
      | [] => none
      | d :: more =>
        if (!quoting.raw && !escapeFits quoting rest) || (quoting.bytes && 0x80 ≤ d.toNat) then none
        else quotedLength? quoting marks (length + 2) more
    else if (c == '\n' || c == '\r') && marks.length == 1 then none
    else quotedLength? quoting marks (length + 1) rest

/-- The length of a quoted text that starts with a mark. -/
def quoted? (quoting : Quoting) (text : Text) : Option Nat := do
  let mark ← text.head?
  let long := List.replicate 3 mark
  let marks := if long.isPrefixOf text then long else [mark]
  quotedLength? quoting marks marks.length (text.drop marks.length)

/-! ## Tokens -/

/-- A quotation mark. -/
def isQuote (c : Char) : Bool := c == '"' || c == apostrophe

/-- A word, or a quoted text that it announces: the token and its length. -/
def wordToken? (text : Text) : Option (Token × Nat) :=
  let word := text.takeWhile isWord
  let rest := text.drop word.length
  if rest.head?.any isQuote then do
    let quoting ← quoting? word
    let length ← quoted? quoting rest
    return (.quoted quoting.bytes, word.length + length)
  else match String.ofList word with
    | "True" | "False" | "None" => some (.constant, word.length)
    | "set" => some (.setWord, word.length)
    | _ => none

/-- The token at the start of a text that starts with no blank, and its length. -/
def token? (text : Text) : Option (Token × Nat) :=
  match text with
  | '.' :: '.' :: '.' :: _ => some (.constant, 3)
  | c :: rest =>
    if c.isDigit || (c == '.' && rest.head?.any Char.isDigit) then
      (number? text).map fun (imaginary, length) => (.number imaginary, length)
    else if c == '+' || c == '-' then some (.sign, 1)
    else if "(),:\x7b\x7d".toList.contains c then some (.mark c, 1)
    else wordToken? text
  | [] => none

/-- How deep brackets may stand in each other. -/
def deepest : Nat := 200

/-- The brackets open after a token, where `depth` were open before. -/
def depthAfter (depth : Nat) : Token → Nat
  | .mark c =>
    if c == '(' || c == '\x7b' then depth + 1
    else if c == ')' || c == '\x7d' then depth - 1 else depth
  | _ => depth

/-- The tokens of a text, where `depth` brackets are open. Every step reads a character, so the
length of the text is `fuel` enough. -/
def tokens? (fuel depth : Nat) (text : Text) : Option (List Token) :=
  match fuel, text with
  | _, [] => some []
  | 0, _ => none
  | fuel + 1, c :: rest =>
    if c == ' ' || c == '\t' || c.toNat == 12 then tokens? fuel depth rest
    else if c == '\n' || c == '\r' then
      if depth = 0 then (tokens? fuel depth rest).map (.lineEnd :: ·) else tokens? fuel depth rest
    else if c == '#' then tokens? fuel depth (rest.dropWhile fun c => c != '\n' && c != '\r')
    else if c == '\\' && rest.head? == some '\n' then tokens? fuel depth (rest.drop 1)
    else do
      let (token, length) ← token? text
      let depth := depthAfter depth token
      if deepest < depth then none else
        return token :: (← tokens? fuel depth (text.drop length))

/-! ## Values -/

/-- What is known of a value. -/
inductive Value where
  | real (signed : Bool)
  | imaginary (signed : Bool)
  /-- Any other value, which can be a member or a key or not. -/
  | other (canBeKey : Bool)
  deriving DecidableEq, Repr

/-- The value can be a member of a set or a key of a table. -/
def Value.canBeKey : Value → Bool
  | .other canBeKey => canBeKey
  | _ => true

/-- A value with a sign before it. -/
def Value.withSign? : Value → Option Value
  | .real false => some (.real true)
  | .imaginary false => some (.imaginary true)
  | _ => none

/-- The sum or difference of two values. -/
def Value.plus? : Value → Value → Option Value
  | .real _, .imaginary false => some (.other true)
  | _, _ => none

/-- Quoted texts side by side, all of one kind. -/
def dropQuoted? (bytes : Bool) : List Token → Option (List Token)
  | .quoted other :: rest => if other = bytes then dropQuoted? bytes rest else none
  | rest => some rest

mutual

/-- A value at the start of tokens, and the tokens after it. -/
def value? (fuel : Nat) (tokens : List Token) : Option (Value × List Token) :=
  match fuel with
  | 0 => none
  | fuel + 1 => do
    let (left, rest) ← match tokens with
      | .sign :: rest =>
        (operand? fuel rest).bind fun (value, rest) => value.withSign?.map (·, rest)
      | _ => operand? fuel tokens
    match rest with
    | .sign :: rest =>
      let (right, rest) ← operand? fuel rest
      return (← left.plus? right, rest)
    | _ => return (left, rest)

/-- A value without a sign before it. -/
def operand? (fuel : Nat) (tokens : List Token) : Option (Value × List Token) :=
  match fuel with
  | 0 => none
  | fuel + 1 =>
    match tokens with
    | .number true :: rest => some (.imaginary false, rest)
    | .number false :: rest => some (.real false, rest)
    | .quoted bytes :: rest => (dropQuoted? bytes rest).map (.other true, ·)
    | .constant :: rest => some (.other true, rest)
    | .setWord :: .mark '(' :: .mark ')' :: rest => some (.other false, rest)
    | .mark '(' :: .mark ')' :: rest => some (.other true, rest)
    | .mark '(' :: rest => do
      let (value, rest) ← value? fuel rest
      match rest with
      | .mark ')' :: rest => return (value, rest)
      | .mark ',' :: rest =>
        let (all, rest) ← members? fuel ')' rest
        return (.other (value.canBeKey && all), rest)
      | _ => none
    | .mark '\x7b' :: .mark '\x7d' :: rest => some (.other false, rest)
    | .mark '\x7b' :: rest => do
      let (value, after) ← value? fuel rest
      if !value.canBeKey then none
      else match after with
        | .mark ':' :: _ => return (.other false, ← entries? fuel rest)
        | .mark '\x7d' :: rest => return (.other false, rest)
        | .mark ',' :: rest =>
          let (all, rest) ← members? fuel '\x7d' rest
          if all then return (.other false, rest) else none
        | _ => none
    | _ => none

/-- Members after a comma up to a closing bracket: whether all can be keys, and the tokens after
the bracket. -/
def members? (fuel : Nat) (close : Char) (tokens : List Token) : Option (Bool × List Token) :=
  match fuel with
  | 0 => none
  | fuel + 1 =>
    if tokens.head? = some (.mark close) then some (true, tokens.drop 1)
    else do
      let (value, rest) ← value? fuel tokens
      match rest with
      | .mark ',' :: rest =>
        let (all, rest) ← members? fuel close rest
        return (value.canBeKey && all, rest)
      | .mark c :: rest => if c = close then return (value.canBeKey, rest) else none
      | _ => none

/-- Entries of a table up to its closing bracket, and the tokens after the bracket. -/
def entries? (fuel : Nat) (tokens : List Token) : Option (List Token) :=
  match fuel with
  | 0 => none
  | fuel + 1 =>
    match tokens with
    | .mark '\x7d' :: rest => some rest
    | _ => do
      let (key, rest) ← value? fuel tokens
      match key.canBeKey, rest with
      | true, .mark ':' :: rest =>
        let (_, rest) ← value? fuel rest
        match rest with
        | .mark ',' :: rest => entries? fuel rest
        | .mark '\x7d' :: rest => return rest
        | _ => none
      | _, _ => none

end

/-- Tokens without the ends of lines at either end. -/
def trimLineEnds (tokens : List Token) : List Token :=
  ((tokens.dropWhile (· == .lineEnd)).reverse.dropWhile (· == .lineEnd)).reverse

end Literal

/-- A text is a literal, or literals divided by commas. Every token is looked at by a bounded number
of steps, so their number bounds the fuel. -/
def isLiteral (text : Text) : Bool :=
  match (Literal.tokens? text.length 0 text).map Literal.trimLineEnds with
  | none | some [] => false
  | some tokens =>
    let group := .mark '(' :: tokens ++ [.mark ')']
    match Literal.operand? (4 * group.length) group with
    | some (_, rest) => rest.isEmpty
    | none => false

end TurtleEdit
