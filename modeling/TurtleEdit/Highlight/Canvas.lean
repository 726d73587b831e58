import TurtleEdit.Highlight.Style

/-!
A canvas holds the style of each character of a region; spans are its runs of equal style.

Spans are half open, come in order, never overlap, and two that touch differ in style. They hold
the same as the canvas: painting them on an empty one gives it back.
-/

namespace TurtleEdit

/-- The style of each character, where it has one. -/
abbrev Canvas := List (Option Style)

/-- Characters from `start` up to `stop` in one style. -/
structure Span where
  start : Nat
  stop : Nat
  style : Style
  deriving DecidableEq, Repr

/-- The number of characters of a span. -/
def Span.length (span : Span) : Nat := span.stop - span.start

/-- Puts a style on the character at `pos` before the spans that follow it, joining it to the first
where they touch and agree. -/
def Span.prepend (pos : Nat) (style : Style) : List Span → List Span
  | span :: spans =>
    if span.start = pos + 1 ∧ span.style = style then ⟨pos, span.stop, style⟩ :: spans
    else ⟨pos, pos + 1, style⟩ :: span :: spans
  | [] => [⟨pos, pos + 1, style⟩]

namespace Canvas

/-- A canvas of `size` characters without a style. -/
def empty (size : Nat) : Canvas := List.replicate size none

/-- Styles the characters from `start` up to `stop`, those with a style only if `overrides`. -/
def fill (canvas : Canvas) (start stop : Nat) (style : Style) (overrides : Bool) : Canvas :=
  canvas.mapIdx fun i old =>
    if start ≤ i ∧ i < stop ∧ (overrides ∨ old = none) then some style else old

/-- The runs of equal style of a canvas whose first character is at `offset`. -/
def spans (offset : Nat) : Canvas → List Span
  | [] => []
  | none :: rest => spans (offset + 1) rest
  | some style :: rest => Span.prepend offset style (spans (offset + 1) rest)

end Canvas

end TurtleEdit
