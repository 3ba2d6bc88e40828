import RelMap.TypeHint.Evaluation
import RelMap.SqlType
import RelMap.Text.Case

/-!
# Inference of column types

Where a column's type is not given it follows from the field's hint.  An evaluated hint
is looked at as a type: a union with the absent value, or a generic type of one argument, counts as
its only other part.  A hint that is still text is searched for the names of types, in an
order that finds `datetime` before `date`.
-/

namespace RelMap

/-- The hint of a field: none, a text, or a type. -/
inductive FieldType where
  | missing
  | text (s : String)
  | type (a : TypeHint)
deriving Repr, Inhabited

namespace TypeHint

def nativeType : Native → SqlType
  | .bool => .boolean
  | .instant => .timestamp
  | .day => .date
  | .decimal => .numeric
  | .bytes => .blob
  | .byteArray => .blob
  | .byteView => .blob
  | .int => .integer
  | .float => .real
  | _ => .text

/-- The only part of a hint that is not the type of the absent value, or else the hint
itself. -/
def principal (a : TypeHint) : TypeHint :=
  match a.arguments.filter fun x => !x.isNullType with
  | [b] => b
  | _ => a

def sqlType (a : TypeHint) : SqlType :=
  match a.principal with
  | native n => nativeType n
  | _ => .text

/-- Is the type of the absent value among the arguments or members? -/
def isOptional (a : TypeHint) : Bool := a.arguments.any isNullType

end TypeHint

def occursIn (s : List Char) : List Char → Bool
  | [] => s.isEmpty
  | c :: rest => s.isPrefixOf (c :: rest) || occursIn s rest

namespace FieldType

/-- The words that a hint text is searched for, with the column types they stand for. -/
def keywords : List (String × SqlType) :=
  [("bool", .boolean), ("datetime", .timestamp), ("date", .date), ("decimal", .numeric),
   ("bytes", .blob), ("int", .integer), ("float", .real)]

def textType (s : String) : SqlType :=
  let lowered := Text.lowerChars s.toList
  match keywords.find? fun e => occursIn e.1.toList lowered with
  | some e => e.2
  | none => .text

def isOptionalText (s : String) : Bool :=
  let lowered := Text.lowerChars (s.toList.filter (· ≠ ' '))
  "optional[".toList.isPrefixOf lowered || "typing.optional[".toList.isPrefixOf lowered ||
    occursIn "|none".toList lowered || occursIn "none|".toList lowered

def sqlType : FieldType → SqlType
  | missing => .text
  | text s => textType s
  | type a => a.sqlType

def isOptional : FieldType → Bool
  | missing => false
  | text s => isOptionalText s
  | type a => a.isOptional

end FieldType

end RelMap
