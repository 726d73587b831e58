import TurtleEdit.Calendar
import TurtleEdit.Number.Scatter
import TurtleEdit.Number.Shortest
import TurtleEdit.Limits
import TurtleEdit.Text.Codes

/-!
Values of settings, as a configuration holds them before they are checked.

A value has a quoted form, which messages show, and a plain form, which is the same except that a
text stands for itself and a date is written in digits. Neither is there for a value that holds an
integer too long to be written, or values in each other more deeply than they can be written.
Numbers of different kinds may be the same key, as may truth values: one, one point zero and true
are one key.
-/

namespace TurtleEdit

/-- What holds a place: a list, a tuple or a mapping. -/
inductive Enclosure where
  | list
  | tuple
  | mapping
  deriving DecidableEq, Repr

/-- The sign for a value inside itself. -/
def Enclosure.sign : Enclosure → String
  | list => "[...]"
  | tuple => "(...)"
  | mapping => "\x7b...\x7d"

/-- A value of any kind. -/
inductive Value where
  | null
  | bool (b : Bool)
  | int (n : Int)
  | float (x : Binary64)
  | str (s : String)
  /-- A text with halves of surrogate pairs. -/
  | torn (codes : Codes)
  | bytes (bs : List UInt8)
  | date (d : Date)
  | moment (m : Moment)
  | list (items : List Value)
  | tuple (items : List Value)
  | mapping (entries : List (Value × Value))
  | set (members : List Value)
  /-- The value that holds this place. -/
  | enclosing (enclosure : Enclosure)
  deriving Repr

namespace Value

/-- The value of a text given by code points. -/
def ofCodes (codes : Codes) : Value :=
  match codes.text? with
  | some text => str (String.ofList text)
  | none => torn codes

/-- The items of a list or a tuple. -/
def items? : Value → Option (List Value)
  | list items | tuple items => some items
  | _ => none

/-! ## Wording -/

/-- A truth value as a word. -/
def boolText (b : Bool) : String := if b then "True" else "False"

/-- A tuple of quoted items; a comma tells a single one from an item in brackets. -/
def tupleText : List String → String
  | [item] => "(" ++ item ++ ",)"
  | items => "(" ++ ", ".intercalate items ++ ")"

/-- The quoted form of a value, written `depth` levels deep. The members of a set are written as a
list is, one level further down. -/
def quote : Nat → Value → Except Unshown String
  | 0, _ => .error .tooDeep
  | depth + 1, value =>
    match value with
    | null => .ok "None"
    | bool b => .ok (boolText b)
    | int n => (digits? n).elim (.error .tooLong) .ok
    | float x => .ok x.render
    | str s => .ok (quoted s)
    | torn codes => .ok (quotedCodes codes)
    | bytes bs => .ok (quotedBytes bs)
    | date d => .ok d.quoted
    | moment m => if depth < m.levels then .error .tooDeep else .ok m.quoted
    | list items => do
      return "[" ++ ", ".intercalate (← items.mapM (quote depth)) ++ "]"
    | tuple items => do
      return tupleText (← items.mapM (quote depth))
    | mapping entries => do
      let entries ← entries.mapM fun entry => do
        return (← quote depth entry.1) ++ ": " ++ (← quote depth entry.2)
      return "\x7b" ++ ", ".intercalate entries ++ "\x7d"
    | set [] => .ok "set()"
    | set members =>
      match depth with
      | 0 => .error .tooDeep
      | depth + 1 => do
        return "\x7b" ++ ", ".intercalate (← members.mapM (quote depth)) ++ "\x7d"
    | enclosing enclosure => .ok enclosure.sign

/-- The characters of a text; a half of a pair is shown by its number. -/
def chars? : Value → Option String
  | str s => some s
  | torn codes => some
    (String.ofList (codes.flatMap fun n => if isHalf n then escapeCode n else [Char.ofNat n]))
  | _ => none

/-- The plain form of a value, written `depth` levels deep where it is not a text or a date. -/
def plain (depth : Nat) : Value → Except Unshown String
  | date d => .ok d.plain
  | moment m => .ok m.plain
  | value => value.chars?.elim (value.quote depth) .ok

/-- The text of a value in lower case, as a value. -/
def lowered (depth : Nat) : Value → Except Unshown Value
  | torn codes => .ok (torn (lowerCodes codes))
  | value => (value.plain depth).map fun text => str (lower text)

/-! ## Keys -/

/-- A number or truth value as a floating-point number or an integer. -/
def number? : Value → Option (Binary64 ⊕ Int)
  | bool b => some (.inr (if b then 1 else 0))
  | int n => some (.inr n)
  | float x => some (.inl x)
  | _ => none

/-- The key of a number or truth value in a table. -/
def tableKey? (value : Value) : Option Nat :=
  match value.number? with
  | some (.inl x) => x.key?
  | some (.inr n) => some (intKey n)
  | none => none

/-- The members of a set in order: numbers in the order of their places in a table, and members
among which others are as they came. -/
def arranged {α : Type} (value : α → Value) (members : List α) : List α :=
  if members.all fun member => (value member).tableKey?.isSome then
    scatter (fun member => ((value member).tableKey?).getD 0) members
  else members

/-- Two values are one key. -/
def sameKey (a b : Value) : Bool :=
  match a.number?, b.number? with
  | some (.inr m), some (.inr n) => m == n
  | some (.inl x), some (.inl y) => x.same y
  | some (.inl x), some (.inr n) | some (.inr n), some (.inl x) => x.toInt? == some n
  | _, _ =>
    match a, b with
    | null, null => true
    | str s, str t => s == t
    | torn s, torn t => s == t
    | bytes s, bytes t => s == t
    | date d, date e => d == e
    | moment m, moment n => m.same n
    | _, _ => false

/-- The entries with the value of a key replaced, or with the key put at the end. -/
def insert (key value : Value) : List (Value × Value) → List (Value × Value)
  | [] => [(key, value)]
  | (k, v) :: entries =>
    if sameKey k key then (k, value) :: entries else (k, v) :: insert key value entries

/-- The mapping of entries in order; a key that comes again replaces the value at its place. -/
def ofEntries (entries : List (Value × Value)) : List (Value × Value) :=
  entries.foldl (fun all entry => insert entry.1 entry.2 all) []

end Value

end TurtleEdit
