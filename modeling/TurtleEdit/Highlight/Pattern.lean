import TurtleEdit.Line.Shape

/-!
The lexical patterns of the highlighting rules.

A pattern is tried at a place of a text, given by the character before the place, if there is one,
and the characters that follow it. Nothing else decides: a pattern looks back by one character at
most, and a scanned region ends for it as a text does. A match tells its length and, for a pattern
with a group, which part of it the group took.

Matches are searched from left to right and do not overlap. Most patterns never match the empty
text; one that does may match it at every place where it finds nothing longer.
-/

namespace TurtleEdit

/-- What a rule looks for. -/
inductive Pattern where
  /-- A string in triple quotes; one that is not closed runs to the end. -/
  | longString
  /-- A string in quotes on one line. -/
  | string
  /-- A comment, at the start of a line or after a blank. -/
  | comment
  /-- A directive word, at the start of a line or after a blank. -/
  | directive (word : String)
  /-- The namespace after the word that declares it. -/
  | declaredNamespace
  /-- The type of a literal, an iri. -/
  | datatypeIri
  /-- The type of a literal, a name. -/
  | datatypeName
  /-- The language right after a string. -/
  | language
  /-- An iri in angle brackets. -/
  | iri
  /-- A labelled anonymous node. -/
  | blankNode
  /-- A name that does not continue another word. -/
  | prefixedName
  /-- A mark between blanks. -/
  | punctuation
  /-- One character. -/
  | single (c : Char)
  /-- As many of one character as there are, possibly none. -/
  | run (c : Char)
  /-- One of two characters; the first one is also a group. -/
  | either (c d : Char)
  /-- From one character to the next occurrence of another. -/
  | enclosed (opening closing : Char)
  /-- A character followed by a word; the word is a group. -/
  | marked (c : Char)
  deriving DecidableEq, Repr

/-- A match found at a place: its length, and the part its group took, as offsets from the place. -/
structure Hit where
  length : Nat
  group : Option (Nat × Nat)
  deriving DecidableEq, Repr

/-! ## Parts of patterns

Each takes the characters that follow a place and gives the length it takes there. -/

/-- How many characters at the start of a text are in a class. -/
def runLength (inClass : Char → Bool) (text : Text) : Nat := (text.takeWhile inClass).length

/-- The text starts with `word`. -/
def startsWith (word : String) (text : Text) : Bool := word.toList.isPrefixOf text

/-- The place is at the start of the text or of a line, or follows a blank. -/
def afterBlank : Option Char → Bool
  | none => true
  | some c => isBlank c

/-- The place is at the end of the text or of a line, or before a blank. -/
def beforeBlank : Text → Bool
  | [] => true
  | c :: _ => isBlank c

/-- A character of a namespace after its first letter. -/
def isNamespaceChar (c : Char) : Bool := isWord c || c == '.' || c == '-'

/-- A namespace and its colon: nothing, or an ASCII letter and namespace characters, before the
colon. -/
def namespaceLength : Text → Option Nat
  | ':' :: _ => some 1
  | c :: rest =>
    if c.isAlpha then
      match rest.dropWhile isNamespaceChar with
      | ':' :: _ => some (runLength isNamespaceChar rest + 2)
      | _ => none
    else none
  | [] => none

/-- A local part: runs of name characters divided by full stops. A full stop that no name
character follows is not part of it. The flag tells that a name character came just before. -/
def localLengthFrom (inRun : Bool) : Text → Nat
  | c :: rest =>
    if isNameChar c then localLengthFrom true rest + 1
    else if inRun && c == '.' then
      match rest with
      | d :: _ => if isNameChar d then localLengthFrom false rest + 1 else 0
      | [] => 0
    else 0
  | [] => 0

/-- The length of the longest local part, 0 where there is none. -/
def localLength (text : Text) : Nat := localLengthFrom false text

/-- A name: a namespace, its colon and a local part, which may be missing. -/
def nameLength (text : Text) : Option Nat :=
  (namespaceLength text).map fun n => n + localLength (text.drop n)

/-- An iri in angle brackets. -/
def iriLength : Text → Option Nat
  | '<' :: rest =>
    match rest.dropWhile isIriChar with
    | '>' :: _ => some (runLength isIriChar rest + 2)
    | _ => none
  | _ => none

/-- The rest of a long string after its opening delimiter, up to and with the closing one. A
backslash takes the next character with it, and no line feed may be taken that way. -/
def longStringBody : Text → Option Nat
  | [] => some 0
  | '"' :: '"' :: '"' :: _ => some 3
  | '\\' :: c :: rest => if c = '\n' then none else (longStringBody rest).map (· + 2)
  | ['\\'] => none
  | _ :: rest => (longStringBody rest).map (· + 1)

/-- The rest of a string after its opening quote, up to and with the closing one. -/
def stringBody : Text → Option Nat
  | [] => none
  | '"' :: _ => some 1
  | '\\' :: c :: rest => if c = '\n' then none else (stringBody rest).map (· + 2)
  | ['\\'] => none
  | c :: rest => if c = '\n' then none else (stringBody rest).map (· + 1)

/-- Further subtags of a language: a hyphen and ASCII letters or digits. The flag tells that a
letter or digit came just before. -/
def subtagsLength (inRun : Bool) : Text → Nat
  | c :: rest =>
    if inRun && c.isAlphanum then subtagsLength true rest + 1
    else if c == '-' then
      match rest with
      | d :: _ => if d.isAlphanum then subtagsLength true rest + 1 else 0
      | [] => 0
    else 0
  | [] => 0

/-- A mark that stands by itself. -/
def isMark (c : Char) : Bool :=
  c == 'a' || c == '[' || c == ']' || c == ',' || c == ';' || c == '.'

/-- The place continues a word, a name or a bracket, where no name starts. -/
def continuesName : Option Char → Bool
  | none => false
  | some c => isWord c || c == ':' || c == '<' || c == '@'

/-! ## Matching -/

/-- A match without a group. -/
def Hit.whole (length : Nat) : Hit := ⟨length, none⟩

/-- A match whose group takes all of it. -/
def Hit.grouped (length : Nat) : Hit := ⟨length, some (0, length)⟩

/-- A match whose group takes all of it but the first `skip` characters. -/
def Hit.after (skip length : Nat) : Hit := ⟨skip + length, some (skip, skip + length)⟩

namespace Pattern

/-- How many groups a pattern has. -/
def groups : Pattern → Nat
  | longString | string | iri | blankNode | prefixedName => 0
  | single _ | run _ | enclosed _ _ => 0
  | comment | directive _ | declaredNamespace | datatypeIri | datatypeName | language => 1
  | punctuation | either _ _ | marked _ => 1

/-- The match at a place, given the character before it and the text that follows it. -/
def hit (pattern : Pattern) (before : Option Char) (text : Text) : Option Hit :=
  match pattern with
  | longString =>
    if startsWith "\"\"\"" text then
      (longStringBody (text.drop 3)).map fun n => .whole (n + 3)
    else none
  | string =>
    match text with
    | '"' :: rest => (stringBody rest).map fun n => .whole (n + 1)
    | _ => none
  | comment =>
    if afterBlank before && startsWith "#" text then some (.grouped (runLength (· != '\n') text))
    else none
  | directive word =>
    if afterBlank before && startsWith word text &&
        !((text.drop word.length).head?.any isWord) then
      some (.grouped word.length)
    else none
  | declaredNamespace =>
    if startsWith "@prefix" text then
      let blanks := runLength isBlank (text.drop 7)
      if blanks = 0 then none
      else (namespaceLength (text.drop (7 + blanks))).map fun n => .after (7 + blanks) n
    else none
  | datatypeIri =>
    if startsWith "^^" text then (iriLength (text.drop 2)).map fun n => .after 2 n else none
  | datatypeName =>
    if startsWith "^^" text then (nameLength (text.drop 2)).map fun n => .after 2 n else none
  | language =>
    match text with
    | '@' :: rest =>
      let letters := runLength Char.isAlpha rest
      if before = some '"' ∧ letters ≠ 0 then
        some (.grouped (1 + letters + subtagsLength false (rest.drop letters)))
      else none
    | _ => none
  | iri => (iriLength text).map fun n => .whole n
  | blankNode =>
    if startsWith "_:" text then
      let n := localLength (text.drop 2)
      if n = 0 then none else some (.whole (n + 2))
    else none
  | prefixedName =>
    if continuesName before then none else (nameLength text).map fun n => .whole n
  | punctuation =>
    match text with
    | c :: rest =>
      if afterBlank before && isMark c && beforeBlank rest then some (.grouped 1) else none
    | [] => none
  | single c => if text.head? = some c then some (.whole 1) else none
  | run c => some (.whole (runLength (· == c) text))
  | either c d =>
    if text.head? = some c then some (.grouped 1)
    else if text.head? = some d then some (.whole 1)
    else none
  | enclosed opening closing =>
    if text.head? = some opening then
      match (text.drop 1).dropWhile (· != closing) with
      | _ :: _ => some (.whole (runLength (· != closing) (text.drop 1) + 2))
      | [] => none
    else none
  | marked c =>
    let n := runLength isWord (text.drop 1)
    if text.head? = some c ∧ n ≠ 0 then some (.after 1 n) else none

end Pattern

/-! ## Scanning -/

/-- A match as offsets into the scanned text. -/
structure Match where
  start : Nat
  stop : Nat
  group : Option (Nat × Nat)
  deriving DecidableEq, Repr

/-- A match found at offset `pos`. -/
def Hit.place (hit : Hit) (pos : Nat) : Match :=
  ⟨pos, pos + hit.length, hit.group.map fun g => (pos + g.1, pos + g.2)⟩

namespace Pattern

/-- The matches in a text that starts at offset `pos` after the character `before`, from left to
right. The next `skip` characters belong to a match already found. -/
def matchesFrom (pattern : Pattern) (pos skip : Nat) (before : Option Char) : Text → List Match
  | [] =>
    match pattern.hit before [] with
    | some hit => [hit.place pos]
    | none => []
  | c :: rest =>
    match skip with
    | skip + 1 => pattern.matchesFrom (pos + 1) skip (some c) rest
    | 0 =>
      match pattern.hit before (c :: rest) with
      | some hit => hit.place pos :: pattern.matchesFrom (pos + 1) (hit.length - 1) (some c) rest
      | none => pattern.matchesFrom (pos + 1) 0 (some c) rest

/-- The matches in a text that follows the character `before`. -/
def matchesIn (pattern : Pattern) (before : Option Char) (text : Text) : List Match :=
  pattern.matchesFrom 0 0 before text

end Pattern

end TurtleEdit
