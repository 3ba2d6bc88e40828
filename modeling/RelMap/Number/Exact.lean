import RelMap.Number.Binary
import RelMap.Number.Decimal

/-!
# Exact numbers

Integers, decimal numbers and floating-point numbers are all products of powers of two and five and
of a core that neither divides.  In this form, which is unique, numbers of different kinds are
compared exactly and without computing large powers.
-/

namespace RelMap

/-- The number `± core · 2 ^ twos · 5 ^ fives`; neither 2 nor 5 divides the core, and zero has no
sign and no factors. -/
structure Exact where
  negative : Bool
  core : Nat
  twos : Int
  fives : Int
deriving DecidableEq, Repr, Inhabited

namespace Exact

def zero : Exact := ⟨false, 0, 0, 0⟩

/-- Divides by a factor as often as it divides, and counts; `fuel` bounds how often. -/
def strip (p : Nat) : (fuel : Nat) → Nat → Nat × Nat
  | 0, n => (n, 0)
  | fuel + 1, n =>
    if n % p = 0 then
      let (m, k) := strip p fuel (n / p)
      (m, k + 1)
    else (n, 0)

/-- The number `± n · 2 ^ twos · 5 ^ fives`. -/
def ofFactors (negative : Bool) (n : Nat) (twos fives : Int) : Exact :=
  if n = 0 then zero
  else
    let (m, a) := strip 2 (Nat.log2 n + 1) n
    let (core, b) := strip 5 (Nat.log2 n + 1) m
    ⟨negative, core, twos + a, fives + b⟩

def ofInt (n : Int) : Exact := ofFactors (n < 0) n.natAbs 0 0

/-- The number `± digits · 10 ^ scale`. -/
def ofScaled (negative : Bool) (digits : Nat) (scale : Int) : Exact :=
  ofFactors negative digits scale scale

def ofBinary (negative : Bool) (x : Binary) : Exact :=
  ofFactors negative x.significand x.exponent 0

def toInt? (x : Exact) : Option Int :=
  if 0 ≤ x.twos && 0 ≤ x.fives then
    let n := x.core * Nat.pow 2 x.twos.toNat * Nat.pow 5 x.fives.toNat
    some (if x.negative then -(n : Int) else n)
  else none

def wholePart (x : Exact) : Int :=
  let n := x.core * Nat.pow 2 x.twos.toNat * Nat.pow 5 x.fives.toNat /
    (Nat.pow 2 (-x.twos).toNat * Nat.pow 5 (-x.fives).toNat)
  if x.negative then -(n : Int) else n

end Exact

def Real.exact? (x : Real) : Option Exact :=
  match x with
  | .finite negative _ _ => x.binary?.map (Exact.ofBinary negative)
  | _ => none

def Decimal.exact? : Decimal → Option Exact
  | .finite negative coefficient exponent => some (.ofScaled negative coefficient exponent)
  | _ => none

/-- The integer that a floating-point number is, if it is one. -/
def Real.toInt? (x : Real) : Option Int := x.exact?.bind Exact.toInt?

/-- The floating-point number nearest to a decimal number has this exact value; none if it is too
large or no number. -/
def Decimal.nearestExact? : Decimal → Option Exact
  | .finite negative coefficient exponent =>
    (Binary.ofScaled? coefficient exponent).map (Exact.ofBinary negative)
  | _ => none

end RelMap
