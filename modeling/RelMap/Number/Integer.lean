import RelMap.Text.Blank
import RelMap.Text.Digit

/-!
# Integers as text

Reads an integer in decimal digits of any script: spaces around it are passed over, a sign may stand
in front, and single underscores may stand between digits.
-/

namespace RelMap

namespace IntegerText

open Text

/-- Does each underscore stand alone between two other characters?  `after` says whether the text
before ends in an underscore or is empty. -/
def separates (after : Bool) : List Char → Bool
  | [] => !after
  | c :: rest => if c = '_' then !after && separates true rest else separates false rest

/-- The number of a run of digits of any script, which underscores may separate. -/
def digits? (s : List Char) : Option Nat :=
  let ds := s.filter (· ≠ '_')
  if separates true s && ds.all isDigit then some (natOfDigits ds) else none

def ofText? (s : List Char) : Option Int :=
  match trimSpaces s with
  | '-' :: r => (digits? r).map fun n => -(n : Int)
  | '+' :: r => (digits? r).map fun n => (n : Int)
  | r => (digits? r).map fun n => (n : Int)

end IntegerText

end RelMap
