import RelMap.Number.Decimal
import RelMap.Number.Real
import RelMap.Calendar.Moment
import RelMap.SqlType

/-!
# Values

`Value` is what callers hand over: row values, predicate values, names, options.  Only some values
can be bound as parameters of a statement (`RelMap.Parameter`), and only text can be a name
(`RelMap.Name`).

A `Value` may be a **labelled constant**: a named member of an enumeration that stands for another
value.  The members of an enumeration of texts or of integers pass for the text or the integer they
hold wherever one is asked for.
-/

namespace RelMap

/-- A model type: its name and a serial number, which tells apart two types of one name. -/
structure ModelId where
  name : String
  serial : Nat
deriving DecidableEq, Repr, Inhabited

inductive ByteForm where
  | bytes
  | array
  | view
deriving DecidableEq, Repr

/-- The label of a constant: its enumeration and its own name. -/
structure Label where
  family : String
  name : String
deriving DecidableEq, Repr

inductive Value where
  | null
  | bool (b : Bool)
  | int (n : Int)
  | real (x : Real)
  | text (s : String)
  | bytes (form : ByteForm) (content : List UInt8)
  | decimal (d : Decimal)
  | moment (m : Moment)
  | list (items : List Value)
  | tuple (items : List Value)
  | set (items : List Value)
  | range (stop : Int)
  | map (entries : List (Value × Value))
  | constant (label : Label) (held : Value)
  /-- A constant of an enumeration of texts. -/
  | textConstant (label : Label) (s : String)
  /-- A constant of an enumeration of integers. -/
  | intConstant (label : Label) (n : Int)
  | sqlType (t : SqlType)
  | record (model : ModelId) (fields : List (String × Value))
  | foreign (typeName : String)
deriving Inhabited, Repr

namespace Value

def typeName : Value → String
  | null => "NoneType"
  | bool _ => "bool"
  | int _ => "int"
  | real _ => "float"
  | text _ => "str"
  | bytes .bytes _ => "bytes"
  | bytes .array _ => "bytearray"
  | bytes .view _ => "memoryview"
  | decimal _ => "Decimal"
  | moment (.day _) => "date"
  | moment (.time _ _) => "time"
  | moment (.instant _ _ _) => "datetime"
  | list _ => "list"
  | tuple _ => "tuple"
  | set _ => "set"
  | range _ => "range"
  | map _ => "dict"
  | constant label _ => label.family
  | textConstant label _ => label.family
  | intConstant label _ => label.family
  | sqlType _ => "SqlType"
  | record model _ => model.name
  | foreign typeName => typeName

/-- The model type of a value: its declared type, or the built-in type of that name. -/
def modelId : Value → ModelId
  | record model _ => model
  | v => ⟨v.typeName, 0⟩

/-- Does a value count as true?  Empty and zero values do not. -/
def truthy : Value → Bool
  | null => false
  | bool b => b
  | int n => n ≠ 0
  | real x => !x.isZero
  | text s => s ≠ ""
  | bytes _ content => !content.isEmpty
  | decimal d => !d.isZero
  | moment _ => true
  | list items => !items.isEmpty
  | tuple items => !items.isEmpty
  | set items => !items.isEmpty
  | range stop => 0 < stop
  | map entries => !entries.isEmpty
  | constant _ _ => true
  | textConstant _ s => s ≠ ""
  | intConstant _ n => n ≠ 0
  | sqlType _ => true
  | record _ _ => true
  | foreign _ => true

def isNull : Value → Bool
  | null => true
  | _ => false

/-- The text that a value passes for, if it does for any. -/
def textOf? : Value → Option String
  | text s => some s
  | textConstant _ s => some s
  | sqlType t => some t.name
  | _ => none

/-- The integer that a value passes for, if it does for any; a truth value counts as 0 or 1. -/
def intOf? : Value → Option Int
  | int n => some n
  | bool b => some (if b then 1 else 0)
  | intConstant _ n => some n
  | _ => none

/-- Text and bytes: values that have elements but count as one. -/
def isScalarSequence : Value → Bool
  | bytes _ _ => true
  | v => v.textOf?.isSome

/-- Values whose elements have an order, text and bytes included. -/
def isSequence : Value → Bool
  | list _ => true
  | tuple _ => true
  | range _ => true
  | v => v.isScalarSequence

def rangeItems (stop : Int) : List Value := (List.range stop.toNat).map fun (n : Nat) => int n

/-- The elements of a value that has any: bytes are numbers, a text is characters, a map its
keys. -/
def items? : Value → Option (List Value)
  | list items => some items
  | tuple items => some items
  | set items => some items
  | range stop => some (rangeItems stop)
  | map entries => some (entries.map Prod.fst)
  | bytes _ content => some (content.map fun b => int b.toNat)
  | v => v.textOf?.map fun s => s.toList.map fun c => text (String.singleton c)

end Value

end RelMap
