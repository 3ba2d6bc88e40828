import RelMap.Number.Integer
import RelMap.Settings.Fault

/-!
# Integers as the text of settings

An integer is written in ASCII digits.  Its plain form has a minus sign or none and no superfluous
zero; beyond it spaces around the number are passed over, and so are a plus sign, leading zeros,
single underscores between digits and a fraction of zeros.  Among leading zeros underscores may
repeat, and a minus sign may come after them.  A number of too many digits is refused as too long.
-/

namespace RelMap

abbrev Checked (α : Type) := Except SettingFault α

namespace SettingInteger

/-- A sign and digits of more characters than this are too long. -/
def longest : Nat := 4300

/-- The number of some digits without a superfluous zero; a run of more digits than there is `room`
for is too long, whatever comes behind it. -/
def plainNat? (room : Nat) : List Char → Option (Checked Nat)
  | [] => none
  | ['0'] => some (.ok 0)
  | '0' :: _ => none
  | ds =>
    let run := ds.takeWhile Char.isDigit
    if room < run.length then some (.error .integerTooLong)
    else if run.length = ds.length then some (.ok (Text.natOfDigits ds))
    else none

def plain? : List Char → Option (Checked Int)
  | '-' :: ds => (plainNat? (longest - 1) ds).map fun r => r.map fun n => -(n : Int)
  | ds => (plainNat? longest ds).map fun r => r.map fun n => (n : Int)

/-- Drops zeros and underscores up to the first other digit or a minus sign; `last` was dropped
last, and stays if nothing but a fraction follows. -/
def dropZeros (last : Char) : List Char → Option (List Char)
  | [] => some [last]
  | c :: rest =>
    if c = '0' || c = '_' then dropZeros c rest
    else if c.isDigit || c = '-' then some (c :: rest)
    else if c = '.' then some (last :: c :: rest)
    else none

/-- A number without its leading zeros; it must begin with a digit. -/
def withoutZeros? : List Char → Option (List Char)
  | '0' :: rest => dropZeros '0' rest
  | c :: rest => if c.isDigit then some (c :: rest) else none
  | [] => none

def withoutFraction (s : List Char) : List Char :=
  match s.dropWhile (· ≠ '.') with
  | _ :: fraction =>
    if !fraction.isEmpty && fraction.all (· = '0') then s.takeWhile (· ≠ '.') else s
  | [] => s

def withoutUnderscores (s : List Char) : List Char :=
  if IntegerText.separates true s then s.filter (· ≠ '_') else s

/-- A number without its sign, and the minus sign if it has one. -/
def splitSign : List Char → List Char × List Char
  | '-' :: rest => (['-'], rest)
  | '+' :: rest => ([], rest)
  | s => ([], s)

def cleaned? (s : List Char) : Option (List Char) :=
  let (sign, body) := splitSign (Text.trimSpaces s)
  (withoutZeros? body).map fun ds => sign ++ withoutUnderscores (withoutFraction ds)

def read (s : List Char) : Checked Int :=
  ((plain? s).or ((cleaned? s).bind plain?)).getD (.error .integerUnreadable)

end SettingInteger

end RelMap
