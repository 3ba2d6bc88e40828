import RelMap.Model.Options

/-!
# Fields

A field of a model has a name, a hint, possibly a default, and a mapping, which says whether
and how it becomes a column.  In the body of a class a field stands bare, with a plain default, or
with a field object; `mappedField` and `keyField` make the field objects of mapped columns.
-/

namespace RelMap

/-- What makes a fresh default for each instance. -/
inductive Factory where
  | emptyList
  | emptyMap
  | emptyText
  | zero
deriving DecidableEq, Repr

def Factory.make : Factory → Value
  | emptyList => .list []
  | emptyMap => .map []
  | emptyText => .text ""
  | zero => .int 0

inductive FieldDefault where
  | none
  | value (v : Value)
  | factory (f : Factory)
deriving Repr, Inhabited

namespace FieldDefault

def isRequired : FieldDefault → Bool
  | none => true
  | _ => false

/-- The value that an instance gets for a field that is not given. -/
def make? : FieldDefault → Option Value
  | none => Option.none
  | value v => some v
  | factory f => some f.make

end FieldDefault

/-- Whether and how a field becomes a column. -/
inductive Mapping where
  | options (o : ColumnOptions)
  | off
  | invalid
deriving Repr, Inhabited

structure Field where
  name : String
  type : FieldType
  default : FieldDefault
  mapping : Mapping
deriving Repr, Inhabited

/-- What stands behind a field's name in the body of a class. -/
inductive FieldSource where
  | bare
  | plain (default : Value)
  | object (default : FieldDefault) (mapping : Mapping)
deriving Repr, Inhabited

structure FieldSpec where
  name : String
  hint : FieldType
  source : FieldSource
deriving Repr, Inhabited

/-- A field object; a field cannot have a default and a factory at once. -/
def fieldObject (default : Option Value) (factory : Option Factory) (mapping : Mapping) :
    Result FieldSource :=
  match default, factory with
  | some _, some _ => .error (.fault .wrongValue)
  | some v, none => .ok (.object (.value v) mapping)
  | none, some f => .ok (.object (.factory f) mapping)
  | none, none => .ok (.object .none mapping)

def mappedField (arguments : Arguments) (default : Option Value) (factory : Option Factory) :
    Result FieldSource := do
  let o ← ColumnOptions.ofArguments arguments
  fieldObject default factory (.options o)

/-- What the column of a primary key is unless it is told otherwise. -/
def keyArguments : Arguments :=
  [("type", .sqlType .integer), ("unique", .bool true), ("nullable", .bool false),
   ("primary_key", .bool true)]

/-- The field object of a primary key; its default is the absent value unless one is given. -/
def keyField (overrides : Arguments) (default : Option Value) (factory : Option Factory) :
    Result FieldSource :=
  mappedField (keyArguments ++ overrides) (some (default.getD .null)) factory

end RelMap
