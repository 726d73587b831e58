import TurtleEdit.Layout.Ink
import TurtleEdit.Text.Emoji
import TurtleEdit.Text.Literal

/-!
Marks in messages: names in square brackets that would colour what follows.

A mark is a small letter or one of three signs and what follows it up to the closing bracket, with
no opening bracket inside. It shows nothing. A mark that starts with a slash closes the last open
one, or the last of the ink it names; there has to be one. A mark that starts with an at sign calls
a handler, and when it is closed the handler's arguments have to be a literal. Backslashes before a
mark stand for half as many, and an odd one makes the mark plain text; a backslash before any other
opening bracket is dropped. Emoji named in the text between two marks are put in.
-/

namespace TurtleEdit

/-- What is wrong with a mark. -/
inductive MarkFault where
  /-- It closes, and there is no open one to close. -/
  | nothingToClose (mark : Text)
  /-- The arguments of the handler it calls are no literal. -/
  | badArguments (arguments : Text)
  /-- It names a colour mixed of what is no number. -/
  | badColour (name : Text)
  deriving DecidableEq, Repr

/-- A part of a marked text. -/
inductive MarkPiece where
  | plain (text : Text)
  | mark (body : Text)
  deriving DecidableEq, Repr

/-- A character that can start a mark. -/
def startsMark (c : Char) : Bool :=
  ('a' ≤ c && c ≤ 'z') || c == '#' || c == '/' || c == '@'

/-- The mark after an opening bracket, and what follows its closing bracket. -/
def readMark? : Text → Option (Text × Text)
  | [] => none
  | c :: rest =>
    if startsMark c then
      let body := rest.takeWhile fun d => d != '[' && d != ']'
      match rest.dropWhile fun d => d != '[' && d != ']' with
      | ']' :: after => some (c :: body, after)
      | _ => none
    else none

theorem length_of_readMark? {text body after : Text} (h : readMark? text = some (body, after)) :
    after.length < text.length := by
  cases text with
  | nil => simp [readMark?] at h
  | cons c rest =>
    rw [readMark?] at h
    split at h
    · simp only at h
      split at h
      · rename_i tail heq
        obtain ⟨-, rfl⟩ : _ ∧ tail = after := by simpa using h
        have := (List.dropWhile_suffix (l := rest) fun d => d != '[' && d != ']').length_le
        rw [heq] at this
        simp only [List.length_cons] at this ⊢
        omega
      · simp at h
    · simp at h

/-- The parts of a marked text, where the plain part begun is `begun`, last character first, and
`slashes` backslashes follow it. -/
def markPieces (begun : Text) (slashes : Nat) (text : Text) : List MarkPiece :=
  match text with
  | [] => [.plain (begun.reverse ++ List.replicate slashes '\\')]
  | c :: rest =>
    if c = '\\' then markPieces begun (slashes + 1) rest
    else if c = '[' then
      match h : readMark? rest with
      | some (body, after) =>
        have := length_of_readMark? h
        let half := .plain (List.replicate (slashes / 2) '\\')
        let shown := if slashes % 2 = 1 then .plain ('[' :: body ++ [']']) else .mark body
        .plain begun.reverse :: half :: shown :: markPieces [] 0 after
      | none => markPieces ('[' :: List.replicate (slashes - 1) '\\' ++ begun) 0 rest
    else markPieces (c :: List.replicate slashes '\\' ++ begun) 0 rest
termination_by text.length
decreasing_by all_goals simp only [List.length_cons]; omega

/-! ## Open marks -/

/-- An open mark: the standard form of its name, and what follows an equals sign. -/
structure OpenMark where
  name : Text
  parameters : Text

/-- The standard form of a mark's name. -/
def markName (name : Text) : Except MarkFault Text :=
  match inkName name with
  | .ok name => .ok name
  | .error _ => .error (.badColour name)

/-- The arguments among the parameters of a mark that calls a handler: what stands in brackets after
the handler's name, or else the parameters themselves. A name alone has no arguments. -/
def handlerArguments (parameters : Text) : Text :=
  let text := trimBlanks parameters
  let rest := text.dropWhile fun c => isWord c || c == '.'
  let inBrackets := rest.head? == some '(' && rest.getLast? == some ')' && !rest.contains '\n'
  if rest.isEmpty then "()".toList else if inBrackets then rest else text

/-- Closes a mark. A handler's arguments are looked at now. -/
def OpenMark.close (mark : OpenMark) : Except MarkFault Unit :=
  let arguments := handlerArguments mark.parameters
  if mark.name.head? != some '@' || mark.parameters.isEmpty || isLiteral arguments then .ok ()
  else .error (.badArguments arguments)

/-- The open marks after one more mark. The last one opened comes first. -/
def stepMark (opened : List OpenMark) (body : Text) : Except MarkFault (List OpenMark) := do
  let name := body.takeWhile (· != '=')
  match name with
  | '/' :: rest =>
    let closing := trimBlanks rest
    let standard ← if closing.isEmpty then pure [] else markName closing
    let matching := fun mark : OpenMark => closing.isEmpty || mark.name == standard
    match opened.find? matching with
    | some mark =>
      mark.close
      return opened.eraseP matching
    | none => throw (.nothingToClose body)
  | _ => return ⟨← markName name, body.drop (name.length + 1)⟩ :: opened

/-- The plain text of parts, while `opened` marks are open. -/
def plainText (opened : List OpenMark) : List MarkPiece → Except MarkFault Text
  | [] => .ok []
  | .plain text :: rest => return replaceEmoji text ++ (← plainText opened rest)
  | .mark body :: rest => do plainText (← stepMark opened body) rest

/-- Looks at the ink that a mark describes with its name and its parameters. -/
def checkInk (name parameters : Text) : Except MarkFault Unit :=
  match Ink.empty.readWords (blankWords (name ++ ' ' :: parameters)) with
  | .error .unreadableShare => .error (.badColour (name ++ ' ' :: parameters))
  | _ => .ok ()

/-- Looks at the ink of a part, if it is an opening mark. -/
def MarkPiece.checkInk : MarkPiece → Except MarkFault Unit
  | .mark body => do
    let name := body.takeWhile (· != '=')
    if body.head? = some '/' then return
    TurtleEdit.checkInk (← markName name) (body.drop (name.length + 1))
  | .plain _ => .ok ()

/-- The text that a marked text shows. The inks are looked at when all marks are in order. -/
def unmark (text : Text) : Except MarkFault Text := do
  let pieces := markPieces [] 0 text
  let shown ← plainText [] pieces
  pieces.forM MarkPiece.checkInk
  return shown

end TurtleEdit
