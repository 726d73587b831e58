import TurtleEdit.Number.Binary64

/-!
Numbers scattered over the places of a table.

A number has a key, the same for an integer and a floating-point number of one value: its residue
modulo the prime 2^61 - 1, in two's complement of 64 bits, where -1 shares the key of -2. A table
has a power of two of places. A member goes to the place that is its key's remainder, or, where that
is taken, on to others; members are told in the order of their places.
-/

namespace TurtleEdit

/-- The prime that keys are residues of. -/
def keyPrime : Nat := 0x1FFFFFFFFFFFFFFF

/-- The key of a residue with a sign. -/
def signedKey (negative : Bool) (residue : Nat) : Nat :=
  if !negative || residue = 0 then residue
  else 0x10000000000000000 - (if residue = 1 then 2 else residue)

/-- The key of an integer. -/
def intKey (n : Int) : Nat := signedKey (n < 0) (n.natAbs % keyPrime)

/-- The key of a floating-point number. Two has the order 61 modulo the prime, so that only the
remainder of the exponent by 61 counts. -/
def Binary64.key? : Binary64 → Option Nat
  | finite negative m e => some (signedKey negative (m * powTwo (e % 61) % keyPrime))
  | infinite negative => some (signedKey negative 314159)
  | nan => none

/-! ## Places -/

/-- The number of places for some members: eight, and from five members on the least power of two
above twice as many. -/
def tableSize (count : Nat) : Nat :=
  if count < 5 then 8 else Nat.pow 2 (Nat.log2 (2 * count) + 1)

/-- The places to try one after another from a place on: nine more, unless the table ends before. -/
def nearPlaces (size place : Nat) : List Nat :=
  if place + 9 < size then (List.range 10).map (place + ·) else [place]

/-- The first free place for a key. From the places near one place the search goes on to another,
which the higher bits of the key decide; `fuel` bounds how often. -/
def freePlace (size : Nat) (taken : List Nat) (fuel place bits : Nat) : Nat :=
  match fuel with
  | 0 => place
  | fuel + 1 =>
    match (nearPlaces size place).find? fun near => !taken.contains near with
    | some near => near
    | none => freePlace size taken fuel ((place * 5 + 1 + bits / 32) % size) (bits / 32)

/-- Members with their places. A full round of the search, once the bits are used up, comes to
every place. -/
def placed {α : Type} (size : Nat) (key : α → Nat) (members : List α) : List (Nat × α) :=
  members.foldl (fun table member =>
    let place := freePlace size (table.map Prod.fst) (size + 64) (key member % size) (key member)
    (place, member) :: table) []

/-- Members in the order of their places. -/
def scatter {α : Type} (key : α → Nat) (members : List α) : List α :=
  let table := placed (tableSize members.length) key members
  (table.mergeSort fun a b => a.1 ≤ b.1).map Prod.snd

end TurtleEdit
