import RelMap.Text.Digit

/-!
# Floating-point numbers

A floating-point number is known by the shortest decimal number that reads back as it: its
significant digits, the last of which is not zero, and the power of ten they are scaled by.  Here
such numbers are read, compared with zero and written; `RelMap.Number.Binary` finds their exact
values.

They are written positionally while the leading digit stands between the fourth place after the
point and the sixteenth before it, and with an exponent of at least two digits otherwise.
-/

namespace RelMap

/-- A floating-point number: `± digits · 10 ^ scale`, an infinity or a not-a-number. -/
inductive Real where
  | finite (negative : Bool) (digits : Nat) (scale : Int)
  | infinite (negative : Bool)
  | nan
deriving DecidableEq, Repr, Inhabited

namespace Real

open Text

def normalize : (fuel : Nat) → (digits : Nat) → (scale : Int) → Nat × Int
  | 0, d, s => (d, s)
  | fuel + 1, d, s => if d ≠ 0 && d % 10 = 0 then normalize fuel (d / 10) (s + 1) else (d, s)

/-- The number `± digits · 10 ^ scale`. -/
def ofDigits (negative : Bool) (digits : Nat) (scale : Int) : Real :=
  if digits = 0 then .finite negative 0 0
  else
    let (d, s) := normalize (digitsOf digits).length digits scale
    .finite negative d s

/-- The scale that the text after the digits writes: an `e` and a signed number, or nothing. -/
def scaleOf : List Char → Int
  | 'e' :: '-' :: ds => -(natOfDigits ds : Int)
  | 'e' :: ds => natOfDigits ds
  | _ => 0

def ofText (s : String) : Real :=
  let (negative, r) := match s.toList with
    | '-' :: r => (true, r)
    | r => (false, r)
  if r = "nan".toList then .nan
  else if r = "inf".toList then .infinite negative
  else
    let whole := r.takeWhile Char.isDigit
    let r := r.dropWhile Char.isDigit
    let (fraction, r) := match r with
      | '.' :: q => (q.takeWhile Char.isDigit, q.dropWhile Char.isDigit)
      | q => ([], q)
    ofDigits negative (natOfDigits (whole ++ fraction)) (scaleOf r - fraction.length)

/-- The digits with a point in front of the digit at `place`, which may lie outside them. -/
def positional (digits : List Char) (place : Int) : List Char :=
  if place ≤ 0 then '0' :: '.' :: (List.replicate place.natAbs '0' ++ digits)
  else if digits.length ≤ place.toNat then
    digits ++ List.replicate (place.toNat - digits.length) '0' ++ ['.', '0']
  else digits.take place.toNat ++ '.' :: digits.drop place.toNat

/-- The digits with a point after the first, and the power of ten of the first. -/
def scientific (digits : List Char) (power : Int) : List Char :=
  let mantissa := match digits with
    | d :: [] => [d]
    | d :: ds => d :: '.' :: ds
    | [] => []
  let e := digitsOf power.natAbs
  mantissa ++ 'e' :: (if power < 0 then '-' else '+') ::
    (if e.length < 2 then '0' :: e else e)

def text : Real → String
  | .finite negative digits scale =>
    let ds := digitsOf digits
    let place : Int := ds.length + scale
    let body := if -4 < place && place ≤ 16 then positional ds place else scientific ds (place - 1)
    String.ofList ((if negative then ['-'] else []) ++ body)
  | .infinite negative => if negative then "-inf" else "inf"
  | .nan => "nan"

def isZero : Real → Bool
  | .finite _ digits _ => digits = 0
  | _ => false

end Real

end RelMap
