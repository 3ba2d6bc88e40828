import RelMap.Text.Blank
import RelMap.Text.Digit

/-!
# Decimal numbers

A decimal number keeps its trailing zeros: `1.50` and `1.5` are equal in value and are written
differently, so a number is a sign, a coefficient and an exponent of ten.  Beside the finite numbers
there are the infinities and the not-a-numbers, which may carry a diagnostic number.

`Decimal.ofText?` reads a text (blanks around it and underscores anywhere are passed over, digits of
every script are accepted) and `Decimal.text` writes one: positionally while the exponent is not
positive and at most six zeros follow the point, otherwise with an exponent.
-/

namespace RelMap

inductive Decimal where
  | finite (negative : Bool) (coefficient : Nat) (exponent : Int)
  | infinite (negative : Bool)
  | nan (negative signaling : Bool) (diagnostic : Nat)
deriving DecidableEq, Repr, Inhabited

namespace Decimal

open Text

/-! ## Reading -/

/-- The longest coefficient has this many digits, and the exponent of the leading digit reaches this
number on either side of zero. -/
def limit : Nat := 999999999999999999

/-- The text that is read as a number: without the blanks around it and without underscores, and
with the digits of every script as ASCII.  No text if a character remains that is not ASCII. -/
def plainText? (s : List Char) : Option (List Char) :=
  ((trim s).filter (· ≠ '_')).mapM fun c =>
    if 0 < c.toNat && c.toNat ≤ 0x7F then some c
    else if isBlank c then some ' '
    else match digit? c with
      | some d => some (Nat.digitChar d)
      | none => none

def splitSign : List Char → Bool × List Char
  | '-' :: r => (true, r)
  | '+' :: r => (false, r)
  | r => (false, r)

/-- The exponent after the digits: nothing, or the letter E and a signed number. -/
def exponent? : List Char → Option Int
  | [] => some 0
  | e :: r =>
    if e.toLower = 'e' then
      let (negative, ds) := splitSign r
      if ds.isEmpty || !ds.all Char.isDigit then none
      else some (if negative then -(natOfDigits ds : Int) else natOfDigits ds)
    else none

/-- Is the number within reach?  The exponent of the leading digit may not exceed the limit, and
the exponent of the last may not fall below what the longest coefficient needs. -/
def inReach (coefficient : Nat) (exponent : Int) : Bool :=
  let lowest := -(2 * limit : Int) + 1
  if coefficient = 0 then lowest ≤ exponent && exponent ≤ limit
  else lowest ≤ exponent && exponent + (digitsOf coefficient).length - 1 ≤ limit

/-- A finite number without its sign: digits with at most one point among them, and an exponent. -/
def finite? (negative : Bool) (s : List Char) : Option Decimal :=
  let whole := s.takeWhile Char.isDigit
  let rest := s.dropWhile Char.isDigit
  let (fraction, rest) := match rest with
    | '.' :: r => (r.takeWhile Char.isDigit, r.dropWhile Char.isDigit)
    | r => ([], r)
  if whole.isEmpty && fraction.isEmpty then none
  else do
    let e ← exponent? rest
    let coefficient := natOfDigits (whole ++ fraction)
    let exponent := e - fraction.length
    if inReach coefficient exponent then some (.finite negative coefficient exponent) else none

/-- A word for a number that is not finite, in small letters. -/
def special? (negative : Bool) (s : List Char) : Option Decimal :=
  if s = "inf".toList || s = "infinity".toList then some (.infinite negative)
  else match s with
    | 'n' :: 'a' :: 'n' :: ds =>
      if ds.all Char.isDigit then some (.nan negative false (natOfDigits ds)) else none
    | 's' :: 'n' :: 'a' :: 'n' :: ds =>
      if ds.all Char.isDigit then some (.nan negative true (natOfDigits ds)) else none
    | _ => none

def ofText? (s : String) : Option Decimal := do
  let plain ← plainText? s.toList
  let (negative, rest) := splitSign plain
  match finite? negative rest with
  | some d => some d
  | none => special? negative (rest.map Char.toLower)

/-! ## Writing -/

/-- The exponent mark and the signed exponent, or nothing for zero. -/
def exponentText (e : Int) : List Char :=
  if e = 0 then []
  else 'E' :: (if e < 0 then '-' else '+') :: digitsOf e.natAbs

/-- Digits with a point after the first `place` of them; zeros fill the gap on either side. -/
def pointed (digits : List Char) (place : Int) : List Char :=
  if place ≤ 0 then '0' :: '.' :: (List.replicate place.natAbs '0' ++ digits)
  else if digits.length ≤ place.toNat then
    digits ++ List.replicate (place.toNat - digits.length) '0'
  else digits.take place.toNat ++ '.' :: digits.drop place.toNat

def signText (negative : Bool) : List Char := if negative then ['-'] else []

/-- A diagnostic number is written only if it is not zero. -/
def diagnosticText (n : Nat) : List Char := if n = 0 then [] else digitsOf n

def text : Decimal → String
  | .finite negative coefficient exponent =>
    let digits := digitsOf coefficient
    let leading : Int := exponent + digits.length
    let place : Int := if exponent ≤ 0 && -6 < leading then leading else 1
    String.ofList (signText negative ++ pointed digits place ++ exponentText (leading - place))
  | .infinite negative => String.ofList (signText negative ++ "Infinity".toList)
  | .nan negative signaling diagnostic =>
    String.ofList (signText negative ++ (if signaling then "sNaN".toList else "NaN".toList) ++
      diagnosticText diagnostic)

def isZero : Decimal → Bool
  | .finite _ coefficient _ => coefficient = 0
  | _ => false

end Decimal

end RelMap
