import RelMap.Error
import RelMap.Text.Blank
import RelMap.Text.Case
import RelMap.Text.Digit

/-!
# Column types as text

A column type may be written as text: the word `varchar`, possibly with a length in parentheses, an
alias, or a standard name.  Case does not count, nor do blanks around the words, the parentheses and
the length.
-/

namespace RelMap

/-- A column type with the length that was written behind it. -/
structure ColumnType where
  type : SqlType
  length : Option Nat := none
deriving DecidableEq, Repr

namespace ColumnType

open Text

def aliases : List (String × SqlType) :=
  [("int", .integer), ("integer", .integer), ("bigint", .integer), ("serial", .integer),
   ("real", .real), ("float", .real), ("double", .real),
   ("numeric", .numeric), ("decimal", .numeric), ("number", .numeric),
   ("text", .text), ("string", .text), ("bool", .boolean), ("boolean", .boolean),
   ("timestamp", .timestamp), ("datetime", .timestamp), ("date", .date),
   ("blob", .blob), ("bytea", .blob)]

/-- A length in parentheses, as its digits; the text must end after it. -/
def lengthDigits? : List Char → Option (List Char)
  | '(' :: r =>
    let r := trimStart r
    match r.takeWhile isDigit, trimStart (r.dropWhile isDigit) with
    | [], _ => none
    | ds, ')' :: rest => if (trimStart rest).isEmpty then some ds else none
    | _, _ => none
  | _ => none

/-- The digits of the length behind the word `varchar`, or no digits if there is no length. -/
def varchar? (s : List Char) : Option (List Char) :=
  let r := trimStart s
  if (r.take 7).map Char.toLower = "varchar".toList then
    match trimStart (r.drop 7) with
    | [] => some []
    | rest => lengthDigits? rest
  else none

/-- Digit runs that are longer than this are not read as numbers. -/
def longestNumber : Nat := 4300

/-- The column type of a text that is an alias or a standard name. -/
def named? (s : List Char) : Option SqlType :=
  match aliases.find? fun e => e.1 == String.ofList (lowerChars (trim s)) with
  | some e => some e.2
  | none => SqlType.ofName? (String.ofList (capitals (trim s)))

/-- Reads the text of a column type; `given` is what messages quote. -/
def ofText (given : Value) (s : List Char) : Result ColumnType :=
  match varchar? s with
  | some [] => .ok { type := .varchar }
  | some ds =>
    if longestNumber < ds.length then .error (.fault .wrongValue)
    else .ok { type := .varchar, length := some (natOfDigits ds) }
  | none =>
    match named? s with
    | some t => .ok { type := t }
    | none => .error (.unknownColumnType given)

/-- Reads a column type that is given as such or as text. -/
def ofValue (given : Value) : Result ColumnType :=
  match given with
  | .sqlType t => .ok { type := t }
  | v =>
    match v.textOf? with
    | some s => ofText given s.toList
    | none => .error (.columnTypeNotText given.typeName)

end ColumnType

end RelMap
