import TurtleEdit.Number.Binary64

/-!
The text of a floating-point number: the fewest digits that read back.

The numbers that round to a value form an interval around it, which holds its ends when the
significand is even. For one digit, two digits and so on, the two neighbours of the value on that
decimal grid are tried; the first grid with a neighbour in the interval gives the digits, of two
the nearer one, and of two equally near the even one.

The digits are written positionally while the point falls near them, and with an exponent of at
least two digits otherwise.
-/

namespace TurtleEdit

/-- A decimal: the digits as a number, times ten to the exponent. -/
structure Decimal where
  digits : Nat
  exponent : Int
  deriving DecidableEq, Repr

namespace Binary64

/-- Compares a decimal with `n` times two to the power `e`. -/
def compareDecimal (d : Decimal) (n : Nat) (e : Int) : Ordering :=
  compare (d.digits * powTen d.exponent * powTwo (-e)) (n * powTwo e * powTen (-d.exponent))

/-- The decimal rounds to the number with this significand and exponent. Below a power of two the
next number is only half as far away as above it. -/
def readsBack (m : Nat) (e : Int) (d : Decimal) : Bool :=
  let below := if m = powTwo 52 ∧ minExponent < e then 4 * m - 1 else 4 * m - 2
  let ends := m % 2 == 0
  let low := compareDecimal d below (e - 2)
  let high := compareDecimal d (4 * m + 2) (e - 2)
  (low == .gt || (ends && low == .eq)) && (high == .lt || (ends && high == .eq))

/-- The decimal neighbours of the number on the grid of ten to the power `k`: the one not above it,
and how twice the number compares with the sum of both. -/
def neighbour (m : Nat) (e k : Int) : Nat × Ordering :=
  let num := m * powTwo e * powTen (-k)
  let den := powTwo (-e) * powTen k
  (num / den, compare (2 * (num % den)) den)

/-- The better neighbour on a grid that reads back, if one does. -/
def onGrid (m : Nat) (e k : Int) : Option Decimal :=
  let (low, side) := neighbour m e k
  let lower : Decimal := ⟨low, k⟩
  let upper : Decimal := ⟨low + 1, k⟩
  match readsBack m e lower, readsBack m e upper with
  | true, true =>
    match side with
    | .lt => some lower
    | .gt => some upper
    | .eq => some (if low % 2 = 0 then lower else upper)
  | true, false => some lower
  | false, true => some upper
  | false, false => none

/-- The number of digits before the point of the value, which may be negative. -/
def pointPosition (m : Nat) (e : Int) : Int :=
  let num := m * powTwo e
  let den := powTwo (-e)
  if den ≤ num then (toString (num / den)).length
  else 1 - (((List.range 330).find? fun (k : Nat) => den ≤ num * powTen k).getD 330 : Nat)

/-- The fewest digits that read back; the exact value if seventeen are not enough. -/
def shortest (m : Nat) (e : Int) : Decimal :=
  let point := pointPosition m e
  match (List.range 17).findSome? fun (n : Nat) => onGrid m e (point - n - 1) with
  | some d => d
  | none => ⟨m * powTwo e * Nat.pow 5 (-e).toNat, min e 0⟩

/-- Digits laid out with the point after the first `point` of them. -/
def layout (digits : List Char) (point : Int) : String :=
  let size : Int := digits.length
  if -4 < point ∧ point ≤ 16 then
    if point ≤ 0 then "0." ++ String.ofList (List.replicate (-point).toNat '0' ++ digits)
    else if size ≤ point then
      String.ofList (digits ++ List.replicate (point - size).toNat '0') ++ ".0"
    else String.ofList (digits.take point.toNat) ++ "." ++ String.ofList (digits.drop point.toNat)
  else
    let power := (point - 1).natAbs
    let mantissa := match digits with
      | first :: second :: rest => String.ofList (first :: '.' :: second :: rest)
      | digits => String.ofList digits
    mantissa ++ (if point < 1 then "e-" else "e+") ++ (if power < 10 then "0" else "") ++
      toString power

/-- The text of a number. -/
def render : Binary64 → String
  | nan => "nan"
  | infinite negative => if negative then "-inf" else "inf"
  | finite negative m e =>
    let sign := if negative then "-" else ""
    if m = 0 then sign ++ "0.0"
    else
      let d := shortest m e
      let all := (toString d.digits).toList
      let digits := (all.reverse.dropWhile (· == '0')).reverse
      sign ++ layout digits (all.length + d.exponent)

end Binary64

end TurtleEdit
