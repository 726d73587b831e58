import TurtleEdit.Text.Blank

/-!
Texts that are nearly alike, for telling which name was meant.

Two texts are compared by what they share: their longest common stretch, and then what the parts
before it and after it share. Of several longest stretches the one that starts first counts.
-/

namespace TurtleEdit

/-- The characters that two texts share at their starts. -/
def commonStart : Text → Text → Nat
  | a :: left, b :: right => if a = b then commonStart left right + 1 else 0
  | _, _ => 0

/-- A stretch of two texts: where it starts in each, and its length. -/
structure Stretch where
  left : Nat
  right : Nat
  size : Nat
  deriving DecidableEq, Repr

/-- The longest stretch of two texts, of several the first in the left and then in the right. -/
def longestStretch (left right : Text) : Stretch :=
  let candidates := (List.range left.length).flatMap fun i =>
    (List.range right.length).map fun j =>
      (⟨i, j, commonStart (left.drop i) (right.drop j)⟩ : Stretch)
  candidates.foldl (fun best next => if best.size < next.size then next else best) ⟨0, 0, 0⟩

/-- The characters that two texts share, in at most `depth` halvings. -/
def sharedWithin (depth : Nat) (left right : Text) : Nat :=
  match depth with
  | 0 => 0
  | depth + 1 =>
    let stretch := longestStretch left right
    if stretch.size = 0 then 0
    else
      stretch.size + sharedWithin depth (left.take stretch.left) (right.take stretch.right) +
        sharedWithin depth (left.drop (stretch.left + stretch.size))
          (right.drop (stretch.right + stretch.size))

/-- The characters that two texts share. A stretch shortens both, so the length of one is deep
enough. -/
def shared (left right : Text) : Nat := sharedWithin left.length left right

/-- Texts are alike when they share at least three fifths of their characters. -/
def alike (left right : Text) : Bool :=
  3 * (left.length + right.length) ≤ 10 * shared left right

/-- One name is nearer to `word` than another; of equally near ones the later name is. -/
def isNearer (word : String) (one other : String) : Bool :=
  let score (name : String) (against : String) : Nat :=
    shared name.toList word.toList * (against.length + word.length)
  let first := score one other
  let second := score other one
  if first = second then other ≤ one else second < first

/-- The names that are alike to a word, the nearest three. -/
def nearNames (word : String) (names : List String) : List String :=
  ((names.filter fun name => alike name.toList word.toList).mergeSort (isNearer word)).take 3

end TurtleEdit
