import TurtleEdit.Highlight.Pattern
import TurtleEdit.Number.Reading
import TurtleEdit.Text.Quoted

/-!
Lexemes of Turtle, as a listing shows them.

A text is cut into names, strings, numbers, comments, punctuation and the blanks between them. A
name is three lexemes, a declaration up to seven, and what starts none of them is a lexeme of one
character. A string runs on until it is closed: a short one to the end of its line at most, a long
one to the last closing delimiter before a backslash. No character is lost.
-/

namespace TurtleEdit

namespace Lexeme

/-- Where a place in a text is. -/
inductive Mode where
  /-- Between lexemes. -/
  | between
  /-- In a string with this mark, a long one or not. -/
  | inside (mark : Char) (long : Bool)
  /-- In such a string, after a backslash. -/
  | escaped (mark : Char) (long : Bool)
  deriving DecidableEq, Repr

/-- The next lexemes, by their lengths, and where they lead. -/
structure Step where
  lengths : List Nat
  mode : Mode

/-! ## Names -/

/-- Characters that can start a name, beyond ASCII. -/
def initialRanges : CodeRanges := [
  (0xC0, 0xD6), (0xD8, 0xF6), (0xF8, 0x2FF), (0x370, 0x37D), (0x37F, 0x1FFF), (0x200C, 0x200D),
  (0x2070, 0x218F), (0x2C00, 0x2FEF), (0x3001, 0xD7FF), (0xF900, 0xFDCF), (0xFDF0, 0xFFFD)]

/-- Characters that can only continue a name, beyond ASCII. -/
def laterRanges : CodeRanges := [(0xB7, 0xB7), (0x300, 0x36F), (0x203F, 0x2040)]

/-- A character that can start a name. -/
def isInitial (c : Char) : Bool := c.isAlpha || initialRanges.contains c.toNat

/-- A character that can start the part of a name after the colon. -/
def isLocalInitial (c : Char) : Bool := isInitial c || c == '_' || c.isDigit

/-- A character of a name. -/
def isInner (c : Char) : Bool := isLocalInitial c || c == '-' || laterRanges.contains c.toNat

/-- A character of a name, or a full stop, which cannot end it. -/
def isInnerOrStop (c : Char) : Bool := isInner c || c == '.'

/-- A character that a backslash can stand before in a name. -/
def isEscapable (c : Char) : Bool := " _~.-!$&\"()*+,;=/?#@%".toList.contains c

/-- How many characters come before the colon of a name. -/
def beforeColon? (text : Text) : Option Nat :=
  let run := text.takeWhile isInnerOrStop
  match text.drop run.length, run with
  | ':' :: _, [] => some 0
  | ':' :: _, first :: _ =>
    if isInitial first && run.getLast? != some '.' then some run.length else none
  | _, _ => none

/-- The length of the part of a name after the colon, where `read` characters are read and the first
`kept` of them can be the part. -/
def localFrom (read kept : Nat) : Text → Nat
  | '%' :: high :: low :: rest =>
    if isHexDigit high && isHexDigit low then localFrom (read + 3) (read + 3) rest else kept
  | '\\' :: c :: rest => if isEscapable c then localFrom (read + 2) (read + 2) rest else kept
  | c :: rest =>
    if c == '.' then localFrom (read + 1) kept rest
    else if isInner c || c == ':' then localFrom (read + 1) (read + 1) rest
    else kept
  | [] => kept

/-- The length of the part of a name after the colon, 0 where there is none. -/
def localPart (text : Text) : Nat :=
  match text with
  | c :: _ =>
    if isLocalInitial c || c == ':' || c == '%' || c == '\\' then localFrom 0 0 text else 0
  | [] => 0

/-- A name: what stands before the colon, the colon, and what follows. -/
def name? (text : Text) : Option (List Nat) :=
  (beforeColon? text).map fun n => [n, 1, localPart (text.drop (n + 1))]

/-- The length of a blank node's label after the colon. -/
def labelPart : Text → Nat
  | c :: rest =>
    if isLocalInitial c then
      ((rest.takeWhile isInnerOrStop).reverse.dropWhile (· == '.')).length + 1
    else 0
  | [] => 0

/-- A blank node: the underscore, the colon and the label. -/
def blankNode? : Text → Option (List Nat)
  | '_' :: ':' :: rest =>
    let label := labelPart rest
    if label = 0 then none else some [1, 1, label]
  | _ => none

/-! ## Resources and declarations -/

/-- A character that can stand in an iri. -/
def isResourceChar (c : Char) : Bool :=
  0x20 < c.toNat && !"<>\"\x7b\x7d|^`\\".toList.contains c

/-- An iri in angle brackets. -/
def resource? : Text → Option Nat
  | '<' :: rest =>
    let length := runLength isResourceChar rest
    if startsWith ">" (rest.drop length) then some (length + 2) else none
  | _ => none

/-- What can follow the words of a declaration: an iri, blanks and a full stop. -/
def declared? (text : Text) : Option (List Nat) := do
  let iri ← resource? text
  let rest := text.drop iri
  let gap := runLength isBlank rest
  return [iri, gap, if startsWith "." (rest.drop gap) then 1 else 0]

/-- The keyword of a declaration in either spelling, and the blanks after it. -/
def opening? (modern old : String) (text : Text) : Option (List Nat × Text) :=
  let word := if startsWith modern text then modern.length
    else if startsWith old text then old.length else 0
  let gap := runLength isBlank (text.drop word)
  if word = 0 ∨ gap = 0 then none else some ([word, gap], text.drop (word + gap))

/-- The name that a declaration binds, with its colon. -/
def boundName? : Text → Option Nat
  | ':' :: _ => some 1
  | c :: rest =>
    let length := runLength isNameChar rest
    if c.isAlpha && startsWith ":" (rest.drop length) then some (length + 2) else none
  | [] => none

/-- A declaration of the base. -/
def base? (text : Text) : Option (List Nat) := do
  let (words, rest) ← opening? "@base" "BASE" text
  return words ++ (← declared? rest)

/-- A declaration of a namespace. -/
def binding? (text : Text) : Option (List Nat) := do
  let (words, rest) ← opening? "@prefix" "PREFIX" text
  let name ← boundName? rest
  let rest := rest.drop name
  let gap := runLength isBlank rest
  if gap = 0 then none else return words ++ name :: gap :: (← declared? (rest.drop gap))

/-! ## Words and numbers -/

/-- A decimal digit of any script. -/
def isDecimal (c : Char) : Bool := (digitValue? c).isSome

/-- The length of a sign, 0 where there is none. -/
def signPart : Text → Nat
  | c :: _ => if c == '+' || c == '-' then 1 else 0
  | [] => 0

/-- The length of a full stop and the digits after it. -/
def fraction? : Text → Option Nat
  | '.' :: rest =>
    let digits := runLength isDecimal rest
    if digits = 0 then none else some (digits + 1)
  | _ => none

/-- The length of a capital E and the signed digits after it. -/
def exponent? : Text → Option Nat
  | 'E' :: rest =>
    let sign := signPart rest
    let digits := runLength isDecimal (rest.drop sign)
    if digits = 0 then none else some (sign + digits + 1)
  | _ => none

/-- A number: with a fraction, with an exponent, or of digits alone. Before the fraction of a number
with an exponent a colon may stand. -/
def number? (text : Text) : Option Nat :=
  let sign := signPart text
  let whole := sign + runLength isDecimal (text.drop sign)
  let rest := text.drop whole
  match fraction? rest with
  | some fraction => some (whole + fraction)
  | none =>
    let fraction := match rest with
      | ':' :: after => ((fraction? after).map (· + 1)).getD 0
      | _ => 0
    match exponent? (rest.drop fraction) with
    | some exponent => some (whole + fraction + exponent)
    | none => if sign < whole then some whole else none

/-- A truth value that no word character touches. -/
def truth? (before : Option Char) (text : Text) : Option Nat :=
  let word := if startsWith "true" text then 4 else if startsWith "false" text then 5 else 0
  let touched := (before.map isWord).getD false || ((text.drop word).head?.map isWord).getD false
  if word = 0 ∨ touched then none else some word

/-- The letter `a` between two blanks. -/
def isType (before : Option Char) (text : Text) : Bool :=
  (before.map isBlank).getD false && startsWith "a" text &&
    ((text.drop 1).head?.map isBlank).getD false

/-- A character of punctuation. -/
def isPunctuation (c : Char) : Bool := "[]()\x7b\x7d.;,:^".toList.contains c

/-! ## Strings -/

/-- What can follow a string: its language or its datatype. -/
def afterString (text : Text) : List Nat :=
  match text with
  | '@' :: rest =>
    let letters := runLength Char.isAlpha rest
    if letters = 0 then [] else [1, letters + subtagsLength false (rest.drop letters)]
  | '^' :: '^' :: rest => ((resource? rest).map fun iri => [2, iri]).getD []
  | _ => []

/-- The delimiter of a string. -/
def delimiter (mark : Char) (long : Bool) : Text := List.replicate (if long then 3 else 1) mark

/-- The text starts with two marks. -/
def startsTwice (mark : Char) : Text → Bool
  | c :: d :: _ => c == mark && d == mark
  | _ => false

/-- The place of the last delimiter of a long string before a backslash, after the first
character, 0 where there is none; `pos` characters are read, and `found` is the last so far. -/
def lastDelimiter (mark : Char) (pos found : Nat) : Text → Nat
  | [] => found
  | c :: rest =>
    if c == '\\' then found
    else if c == mark && startsTwice mark rest then lastDelimiter mark (pos + 1) pos rest
    else lastDelimiter mark (pos + 1) found rest

/-- The length of a stretch of a string without its delimiter and backslashes. -/
def stretch (mark : Char) (long : Bool) (text : Text) : Nat :=
  if long then lastDelimiter mark 0 0 text
  else runLength (fun c => c != mark && c != '\\' && c != '\n') text

/-- A string's delimiter at the start of a text. -/
def opensString? (text : Text) : Option (Char × Bool) :=
  ['"', apostrophe].findSome? fun mark =>
    [true, false].findSome? fun long =>
      if (delimiter mark long).isPrefixOf text then some (mark, long) else none

/-! ## Steps -/

/-- One lexeme of one character, where nothing else fits. A line feed leaves a string. -/
def odd (mode : Mode) : Text → Step
  | '\n' :: _ => ⟨[1], .between⟩
  | _ => ⟨[1], mode⟩

/-- Lexemes at a place outside strings. -/
def ordinary? (before : Option Char) (text : Text) : Option (List Nat) :=
  let blanks := runLength isBlank text
  if blanks ≠ 0 then some [blanks]
  else base? text <|> binding? text <|>
    (if isType before text then some [1] else none) <|>
    (resource? text).map ([·]) <|> name? text <|> blankNode? text <|>
    (if startsWith "#" text && runLength (· != '\n') text != 1
      then some [runLength (· != '\n') text] else none) <|>
    (truth? before text).map ([·]) <|> (number? text).map ([·]) <|>
    (if (text.head?.map isPunctuation).getD false then some [1] else none)

/-- The lexemes at a place. -/
def step (mode : Mode) (before : Option Char) (text : Text) : Step :=
  match mode with
  | .between =>
    match ordinary? before text, opensString? text with
    | some lengths, _ => ⟨lengths, .between⟩
    | none, some (mark, long) => ⟨[(delimiter mark long).length], .inside mark long⟩
    | none, none => odd .between text
  | .inside mark long =>
    let close := delimiter mark long
    if close.isPrefixOf text then
      ⟨close.length :: afterString (text.drop close.length), .between⟩
    else
      let length := stretch mark long text
      if length ≠ 0 then ⟨[length], mode⟩
      else if startsWith "\\" text then ⟨[1], .escaped mark long⟩
      else odd mode text
  | .escaped mark long =>
    match text with
    | '\n' :: _ => odd mode text
    | _ => ⟨[1], .inside mark long⟩

/-- The sum of lengths. -/
def total : List Nat → Nat
  | [] => 0
  | length :: rest => length + total rest

/-- Pieces of given lengths from the start of a text. -/
def pieces : List Nat → Text → List Text
  | [], _ => []
  | length :: rest, text => text.take length :: pieces rest (text.drop length)

/-- Lengths that take something: one character if they would take none. -/
def atLeastOne (lengths : List Nat) : List Nat := if total lengths = 0 then [1] else lengths

/-- The lexemes of a text from a place on. -/
def ofTextFrom (mode : Mode) (before : Option Char) (text : Text) : List Text :=
  match text with
  | [] => []
  | c :: rest =>
    let next := step mode before (c :: rest)
    let lengths := atLeastOne next.lengths
    let count := total lengths - 1
    pieces lengths (c :: rest) ++ ofTextFrom next.mode (c :: rest)[count]? (rest.drop count)
termination_by text.length
decreasing_by simp only [List.length_drop, List.length_cons]; omega

end Lexeme

/-- The lexemes of a text. -/
def lexemes (text : Text) : List Text := Lexeme.ofTextFrom .between none text

end TurtleEdit
