/-!
Floating-point numbers of 64 bits, as exact values.

A finite number is a sign, a significand below 2^53 and a power of two. Numbers arise by rounding
an exact ratio to the nearest one, a tie to the even significand, so every operation is a
computation on integers followed by one rounding.
-/

namespace TurtleEdit

/-- A floating-point number; a finite one is the significand times two to the exponent. -/
inductive Binary64 where
  | finite (negative : Bool) (significand : Nat) (exponent : Int)
  | infinite (negative : Bool)
  | nan
  deriving DecidableEq, Repr

/-- Two to the power `e`; one where `e` is negative. -/
def powTwo (e : Int) : Nat := Nat.pow 2 e.toNat

/-- Ten to the power `e`; one where `e` is negative. -/
def powTen (e : Int) : Nat := Nat.pow 10 e.toNat

/-- The ratio rounded to a natural number, a tie to the even one. -/
def roundRatio (num den : Nat) : Nat :=
  let whole := num / den
  let twice := 2 * (num % den)
  if den < twice ∨ (twice = den ∧ whole % 2 = 1) then whole + 1 else whole

/-- The ratio divided by two to the power `e`, as a ratio. -/
def scaleRatio (num den : Nat) (e : Int) : Nat × Nat :=
  (num * powTwo (-e), den * powTwo e)

namespace Binary64

/-- The least exponent. -/
def minExponent : Int := -1074

/-- The greatest exponent of a finite number. -/
def maxExponent : Int := 971

/-- The exponent at which a positive ratio has a significand of 53 bits, or the least exponent. -/
def exponentFor (num den : Nat) : Int :=
  let guess : Int := (Nat.log2 num : Int) - Nat.log2 den - 53
  let scaled := scaleRatio num den guess
  max minExponent (if powTwo 53 ≤ scaled.1 / scaled.2 then guess + 1 else guess)

/-- The number nearest to a ratio. -/
def ofRatio (negative : Bool) (num den : Nat) : Binary64 :=
  if num = 0 then .finite negative 0 minExponent
  else
    let exponent := exponentFor num den
    let scaled := scaleRatio num den exponent
    let significand := roundRatio scaled.1 scaled.2
    let (significand, exponent) :=
      if significand = powTwo 53 then (powTwo 52, exponent + 1) else (significand, exponent)
    if maxExponent < exponent then .infinite negative else .finite negative significand exponent

/-- The number nearest to a signed integer times two to the power `e`. -/
def ofDyadic (n : Int) (e : Int) : Binary64 :=
  ofRatio (n < 0) (n.natAbs * powTwo e) (powTwo (-e))

/-- The number nearest to a natural number times ten to the power `e`. Powers far outside the range
of the format are decided by the size of the number alone. -/
def ofDecimal (negative : Bool) (digits : Nat) (e : Int) : Binary64 :=
  let size : Int := (toString digits).length
  if digits = 0 ∨ size + e < -400 then .finite negative 0 minExponent
  else if 400 < size + e then .infinite negative
  else ofRatio negative (digits * powTen e) (powTen (-e))

/-- The number with the opposite sign. -/
def neg : Binary64 → Binary64
  | finite negative m e => finite (!negative) m e
  | infinite negative => infinite (!negative)
  | nan => nan

/-- The signed significand of a finite number. -/
def signed (negative : Bool) (m : Nat) : Int := if negative then -(m : Int) else m

/-- The sum, rounded. -/
def add : Binary64 → Binary64 → Binary64
  | finite s m e, finite t n f =>
    if m = 0 ∧ n = 0 then finite (s && t) 0 minExponent
    else
      let low := min e f
      ofDyadic (signed s m * powTwo (e - low) + signed t n * powTwo (f - low)) low
  | infinite s, infinite t => if s = t then infinite s else nan
  | infinite s, finite .. | finite .., infinite s => infinite s
  | nan, _ | _, nan => nan

/-- The product, rounded. -/
def mul : Binary64 → Binary64 → Binary64
  | finite s m e, finite t n f =>
    ofRatio (s != t) (m * n * powTwo (e + f)) (powTwo (-(e + f)))
  | infinite s, infinite t => infinite (s != t)
  | infinite s, finite t m _ | finite t m _, infinite s =>
    if m = 0 then nan else infinite (s != t)
  | nan, _ | _, nan => nan

/-- The integer that a number equals, if it equals one. -/
def toInt? : Binary64 → Option Int
  | finite negative m e =>
    let den := powTwo (-e)
    if m % den = 0 then some (signed negative (m / den * powTwo e)) else none
  | _ => none

/-- Equality of values: zero has two forms, and nothing equals `nan`. -/
def same : Binary64 → Binary64 → Bool
  | finite s m e, finite t n f => m == n && (m == 0 || (s == t && e == f))
  | infinite s, infinite t => s == t
  | _, _ => false

end Binary64

end TurtleEdit
