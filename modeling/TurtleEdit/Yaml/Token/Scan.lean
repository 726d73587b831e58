import TurtleEdit.Yaml.Token.Tag

/-!
The tokens of a text, read as they are needed.

A token is read from its first character. Outside flow collections the column of a token opens and
closes block collections. A scalar or a collection on one line may turn out to be a key when a
colon follows it: then the mark of a key is put in front of it, and outside flow collections the
start of a mapping, if its column opens one.

A simple key ends on the line it starts on and within 1024 characters. One at the column of the
mapping that holds it has to be a key. As long as the next token may be a key, more is read before
it is given out; nothing beyond that is looked at, so a fault further on does not show yet.
-/

namespace TurtleEdit.Yaml

/-- A token that may turn out to be a key: its number among the tokens, and where it starts. -/
structure SimpleKey where
  number : Nat
  required : Bool
  index : Nat
  line : Nat
  column : Nat
  deriving DecidableEq, Repr

/-- How far the reading of tokens has come. -/
structure Scanner where
  cursor : Cursor
  /-- The tokens read and not yet given out. -/
  tokens : List Token
  /-- How many tokens have been given out. -/
  taken : Nat
  /-- The end of the text has been read. -/
  ended : Bool
  /-- How many flow collections hold the place. -/
  depth : Int
  /-- The column of the innermost block collection, or -1. -/
  indent : Int
  /-- The columns of the other block collections, innermost first. -/
  outer : List Int
  /-- A token here may be a simple key. -/
  keyAllowed : Bool
  /-- The candidates for simple keys, by the depth of their collection. -/
  keys : List (Int × SimpleKey)
  deriving Repr

namespace Scanner

/-- Before the first token. -/
def start (text : Text) : Scanner := ⟨.start text, [], 0, false, 0, -1, [], true, []⟩

/-- One more token. -/
def emit (s : Scanner) (token : Token) : Scanner := { s with tokens := s.tokens ++ [token] }

/-- Inside a flow collection. -/
def inFlow (s : Scanner) : Bool := s.depth != 0

/-! ## Simple keys -/

/-- Drops the candidates whose line or reach has ended; one that has to be a key is missed. -/
def dropStale (s : Scanner) : Except Fault Scanner :=
  let isStale (key : SimpleKey) : Bool :=
    key.line != s.cursor.line || 1024 < s.cursor.index - key.index
  if s.keys.any fun (_, key) => isStale key && key.required then .error .malformed
  else .ok { s with keys := s.keys.filter fun (_, key) => !isStale key }

/-- Drops the candidate of the present collection; one that has to be a key is missed. -/
def dropKey (s : Scanner) : Except Fault Scanner :=
  match s.keys.lookup s.depth with
  | some key =>
    if key.required then .error .malformed
    else .ok { s with keys := s.keys.filter (·.1 != s.depth) }
  | none => .ok s

/-- Makes the next token a candidate. -/
def saveKey (s : Scanner) : Except Fault Scanner :=
  if s.keyAllowed then do
    let required := !s.inFlow && s.indent == s.cursor.column
    let s ← s.dropKey
    let key : SimpleKey :=
      ⟨s.taken + s.tokens.length, required, s.cursor.index, s.cursor.line, s.cursor.column⟩
    return { s with keys := (s.depth, key) :: s.keys }
  else .ok s

/-! ## Block collections -/

/-- Closes the block collections right of a column. -/
def unwindFrom (column : Int) (s : Scanner) : List Int → Scanner
  | [] => s
  | outer :: rest =>
    if column < s.indent then
      unwindFrom column { s.emit .blockEnd with indent := outer, outer := rest } rest
    else s

/-- Closes the block collections right of a column, outside flow collections. -/
def unwind (column : Int) (s : Scanner) : Scanner :=
  if s.inFlow then s else unwindFrom column s s.outer

/-- Opens a block collection at a column right of the present one. -/
def opens (s : Scanner) (column : Int) : Bool := s.indent < column

/-- The scanner with a block collection open at a column. -/
def openAt (s : Scanner) (column : Int) : Scanner :=
  { s with outer := s.indent :: s.outer, indent := column }

/-- Opens a block collection at the place if its column asks for one. -/
def openHere (s : Scanner) (token : Token) : Scanner :=
  if s.opens s.cursor.column then (s.emit token).openAt s.cursor.column else s

/-! ## Tokens -/

/-- Leaves block collections and candidates behind for a mark between documents. -/
def leaveDocument (s : Scanner) : Except Fault Scanner := do
  let s ← (s.unwind (-1)).dropKey
  return { s with keyAllowed := false }

/-- The end of the text. -/
def readEnd (s : Scanner) : Except Fault Scanner := do
  let s ← s.leaveDocument
  return { s.emit .streamEnd with keys := [], ended := true }

/-- A directive. -/
def readDirectiveLine (s : Scanner) : Except Fault Scanner := do
  let s ← s.leaveDocument
  let (token, cursor) ← readDirective s.cursor
  return { s.emit token with cursor }

/-- A mark between documents. -/
def readDocumentMark (s : Scanner) (token : Token) : Except Fault Scanner := do
  let s ← s.leaveDocument
  return { s.emit token with cursor := s.cursor.skip 3 }

/-- The start of a flow collection. -/
def readFlowStart (s : Scanner) (token : Token) : Except Fault Scanner := do
  let s ← s.saveKey
  return { s.emit token with depth := s.depth + 1, keyAllowed := true, cursor := s.cursor.next }

/-- The end of a flow collection. -/
def readFlowEnd (s : Scanner) (token : Token) : Except Fault Scanner := do
  let s ← s.dropKey
  return { s.emit token with depth := s.depth - 1, keyAllowed := false, cursor := s.cursor.next }

/-- A comma of a flow collection. -/
def readFlowEntry (s : Scanner) : Except Fault Scanner := do
  let s ← s.dropKey
  return { s.emit .flowEntry with keyAllowed := true, cursor := s.cursor.next }

/-- An item of a block sequence. -/
def readBlockEntry (s : Scanner) : Except Fault Scanner := do
  if !s.inFlow && !s.keyAllowed then throw .malformed
  let s := if s.inFlow then s else s.openHere .blockSequenceStart
  let s ← s.dropKey
  return { s.emit .blockEntry with keyAllowed := true, cursor := s.cursor.next }

/-- A question mark before a key. -/
def readKey (s : Scanner) : Except Fault Scanner := do
  if !s.inFlow && !s.keyAllowed then throw .malformed
  let s := if s.inFlow then s else s.openHere .blockMappingStart
  let s ← s.dropKey
  return { s.emit .key with keyAllowed := !s.inFlow, cursor := s.cursor.next }

/-- Marks the candidate as a key, and opens a block mapping at its column if that asks for one. -/
def confirmKey (s : Scanner) (key : SimpleKey) : Scanner :=
  let s := { s with keys := s.keys.filter (·.1 != s.depth), keyAllowed := false }
  let (before, after) := s.tokens.splitAt (key.number - s.taken)
  if !s.inFlow && s.opens key.column then
    { s.openAt key.column with tokens := before ++ [.blockMappingStart, .key] ++ after }
  else { s with tokens := before ++ [.key] ++ after }

/-- A colon before a value. -/
def readValue (s : Scanner) : Except Fault Scanner := do
  let s ← match s.keys.lookup s.depth with
    | some key => pure (s.confirmKey key)
    | none => do
      if !s.inFlow && !s.keyAllowed then throw .malformed
      let s := if s.inFlow then s else s.openHere .blockMappingStart
      let s ← s.dropKey
      pure { s with keyAllowed := !s.inFlow }
  return { s.emit .value with cursor := s.cursor.next }

/-- An alias, an anchor or a tag. -/
def readWord (s : Scanner) (read : Cursor → Except Fault (Token × Cursor)) :
    Except Fault Scanner := do
  let s ← s.saveKey
  let (token, cursor) ← read s.cursor
  return { s.emit token with keyAllowed := false, cursor }

/-- A block scalar. -/
def readBlockScalar (s : Scanner) (folded : Bool) : Except Fault Scanner := do
  let s ← s.dropKey
  let (text, cursor) ← blockScalar folded s.indent s.cursor
  return { s.emit (.scalar (codesOf text) false) with keyAllowed := true, cursor }

/-- A plain scalar. A token after the end of its line may be a key. -/
def readPlain (s : Scanner) : Except Fault Scanner := do
  let s ← s.saveKey
  let (text, cursor, broken) := plainScalar s.inFlow s.indent s.cursor
  return { s.emit (.scalar (codesOf text) true) with keyAllowed := broken, cursor }

/-- A plain scalar may start at the place. -/
def plainStarts (s : Scanner) : Bool :=
  match s.cursor.peek with
  | none => false
  | some c =>
    let marks := "-?:,[]\x7b\x7d#&*!|>\"%@".toList
    if isGap c || isBreak c || marks.contains c || c.toNat == 0x27 || c.toNat == 0x60 then
      !endsMark (s.cursor.peekAt 1) && (c == '-' || (!s.inFlow && (c == '?' || c == ':')))
    else true

/-- The place before the next token: blanks, comments and line ends are passed. -/
def toToken (cursor : Cursor) (broken : Bool) : Nat → Cursor × Bool
  | 0 => (cursor, broken)
  | bound + 1 =>
    let cursor := (cursor.skipWhile (· == ' ')).skipComment
    if cursor.peek.any isBreak then toToken cursor.lineBreak.2 true bound else (cursor, broken)

/-- Moves to the next token. A line's end allows a simple key again outside flow collections. -/
def advance (s : Scanner) : Scanner :=
  let cursor := if s.cursor.index = 0 ∧ s.cursor.peek.any (·.toNat == 0xFEFF) then s.cursor.next
    else s.cursor
  let (cursor, broken) := toToken cursor false (cursor.rest.length + 1)
  { s with cursor, keyAllowed := s.keyAllowed || (broken && !s.inFlow) }

/-- Reads the token that starts with the character `c` at the place. -/
def readToken (s : Scanner) (c : Char) : Except Fault Scanner :=
  let marked := endsMark (s.cursor.peekAt 1)
  if c = '%' ∧ s.cursor.column = 0 then s.readDirectiveLine
  else if s.cursor.column = 0 ∧ s.cursor.atDocumentMark then
    s.readDocumentMark (if c = '-' then .documentStart else .documentEnd)
  else if c = '[' then s.readFlowStart .flowSequenceStart
  else if c = '\x7b' then s.readFlowStart .flowMappingStart
  else if c = ']' then s.readFlowEnd .flowSequenceEnd
  else if c = '\x7d' then s.readFlowEnd .flowMappingEnd
  else if c = ',' then s.readFlowEntry
  else if c = '-' ∧ marked then s.readBlockEntry
  else if c = '?' ∧ (s.inFlow ∨ marked) then s.readKey
  else if c = ':' ∧ (s.inFlow ∨ marked) then s.readValue
  else if c = '*' then
    s.readWord fun cursor => do
      let (name, cursor) ← markedName endsAnchor cursor
      return (.alias name, cursor)
  else if c = '&' then
    s.readWord fun cursor => do
      let (name, cursor) ← markedName endsAnchor cursor
      return (.anchor name, cursor)
  else if c = '!' then s.readWord readTag
  else if c = '|' ∧ !s.inFlow then s.readBlockScalar false
  else if c = '>' ∧ !s.inFlow then s.readBlockScalar true
  else if c = '"' ∨ c.toNat = 0x27 then
    s.readWord fun cursor => do
      let (codes, cursor) ← quotedScalar c cursor
      return (.scalar codes false, cursor)
  else if s.plainStarts then s.readPlain
  else .error .malformed

/-- Moves to the next token and reads it. -/
def step (s : Scanner) : Except Fault Scanner := do
  let s ← s.advance.dropStale
  let s := s.unwind s.cursor.column
  match s.cursor.peek with
  | none => s.readEnd
  | some c => s.readToken c

/-- The next token may turn out to be a key. -/
def nextMayBeKey (s : Scanner) : Bool := s.keys.any fun (_, key) => key.number == s.taken

/-- Reads on until the next token is settled. -/
def settle (s : Scanner) : Nat → Except Fault Scanner
  | 0 => .error .malformed
  | bound + 1 => do
    if s.ended then return s
    if s.tokens.isEmpty then (← s.step).settle bound
    else
      let s ← s.dropStale
      if s.nextMayBeKey then (← s.step).settle bound else return s

/-- The next token, which stays, and the scanner that has read it. Every step but the last passes a
character. -/
def next (s : Scanner) : Except Fault (Token × Scanner) := do
  let s ← s.settle (s.cursor.rest.length + 3)
  match s.tokens with
  | token :: _ => return (token, s)
  | [] => throw .malformed

/-- Gives out the next token. -/
def take (s : Scanner) : Scanner := { s with tokens := s.tokens.tail, taken := s.taken + 1 }

end Scanner

/-- A character that a document may hold. -/
def isDocumentChar (c : Char) : Bool :=
  let n := c.toNat
  n == 0x9 || n == 0xA || n == 0xD || (0x20 ≤ n && n ≤ 0x7E) || n == 0x85 ||
    (0xA0 ≤ n && n ≤ 0xFFFD) || 0x10000 ≤ n

/-- The scanner before the first token of a text that holds no other characters. -/
def Scanner.ofText (text : Text) : Except Fault Scanner :=
  if text.all isDocumentChar then .ok (.start text) else .error .malformed

end TurtleEdit.Yaml
