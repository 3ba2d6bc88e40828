import RelMap.Number.Decimal
import RelMap.Number.Real

/-!
# Comparison with counts

Whether a number is less than a natural number.  Powers of ten are computed only where the number of
digits leaves the question open, so numbers with huge exponents do no harm.
-/

namespace RelMap

open Text

/-- Is `± digits · 10 ^ scale` less than `n`? -/
def scaledBelow (negative : Bool) (digits : Nat) (scale : Int) (n : Nat) : Bool :=
  if digits = 0 then 0 < n
  else if negative then true
  else if 0 ≤ scale then
    scale ≤ (digitsOf n).length && digits * Nat.pow 10 scale.toNat < n
  else if (digitsOf digits).length ≤ scale.natAbs then 0 < n
  else digits < n * Nat.pow 10 scale.natAbs

def Real.isBelow (x : Real) (n : Nat) : Bool :=
  match x with
  | .finite negative digits scale => scaledBelow negative digits scale n
  | .infinite negative => negative
  | .nan => false

/-- Is a decimal number less than a natural number?  A not-a-number cannot be compared. -/
def Decimal.isBelow? (d : Decimal) (n : Nat) : Option Bool :=
  match d with
  | .finite negative coefficient exponent => some (scaledBelow negative coefficient exponent n)
  | .infinite negative => some negative
  | .nan _ _ _ => none

end RelMap
