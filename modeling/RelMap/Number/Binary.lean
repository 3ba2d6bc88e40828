import RelMap.Number.Real

/-!
# Binary floating point

A binary number is a significand times a power of two.  `Binary.nearest` finds, for a quotient of
natural numbers, the nearest number with a significand of 53 bits and an exponent of at least -1074;
of two that are equally near it takes the one with the even significand.

`Real.binary?` is the number that the digits of a floating-point number stand for, as a machine
holds it: the digits are the fewest that tell it apart, and seldom its exact value.
-/

namespace RelMap

/-- A number `significand · 2 ^ exponent`. -/
structure Binary where
  significand : Nat
  exponent : Int
deriving DecidableEq, Repr, Inhabited

namespace Binary

open Text

/-- The quotient of two numbers, rounded to the nearest; a tie goes to the even neighbour. -/
def roundedQuotient (n d : Nat) : Nat :=
  let q := n / d
  let twice := 2 * (n % d)
  if twice < d then q else if d < twice then q + 1 else q + q % 2

/-- The quotient of `n` and `d · 2 ^ e`, as numerator and denominator. -/
def scaled (n d : Nat) (e : Int) : Nat × Nat :=
  if 0 ≤ e then (n, d * Nat.pow 2 e.toNat) else (n * Nat.pow 2 e.natAbs, d)

/-- The exponent with which a quotient has a significand of 53 bits, but not below the smallest. -/
def exponentFor (n d : Nat) : Int :=
  let low : Int := (Nat.log2 n : Int) - Nat.log2 d - 53
  let (a, b) := scaled n d low
  max (if Nat.pow 2 53 ≤ a / b then low + 1 else low) (-1074)

def nearest (n d : Nat) : Binary :=
  let e := exponentFor n d
  let (a, b) := scaled n d e
  ⟨roundedQuotient a b, e⟩

def overflows (x : Binary) : Bool :=
  971 < x.exponent || (x.exponent = 971 && x.significand = Nat.pow 2 53)

/-- The binary number nearest to `digits · 10 ^ scale`; none if it is too large. -/
def ofScaled? (digits : Nat) (scale : Int) : Option Binary :=
  let place : Int := (digitsOf digits).length + scale
  if digits = 0 || place < -400 then some ⟨0, 0⟩
  else if 400 < place then none
  else
    let x := if 0 ≤ scale then nearest (digits * Nat.pow 10 scale.toNat) 1
      else nearest digits (Nat.pow 10 scale.natAbs)
    if x.overflows then none else some x

end Binary

/-- The binary number that the digits of a finite number stand for. -/
def Real.binary? : Real → Option Binary
  | .finite _ digits scale => Binary.ofScaled? digits scale
  | _ => none

end RelMap
