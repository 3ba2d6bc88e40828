import RelMap.Arguments
import RelMap.Parameter
import RelMap.Row

/-!
# Columns

A `Column` is what the library knows of one mapped field: the column's name and type, its
constraints, the field it stands for and, for `VARCHAR`, its length.  Constraints, the length and
the field are kept as they were given; a constraint holds if its value counts as true.  Names may
carry labels; they are compared by their characters.
-/

namespace RelMap

structure Column where
  name : Name
  type : SqlType
  nullable : Value
  unique : Value
  isKey : Value
  field : Value
  length : Value
deriving Repr, Inhabited

namespace Column

/-- The length of a `VARCHAR` column for which none is given. -/
def defaultLength : Nat := 255

/-- Checks the name of a column and fills in what is left out: the field has the column's name
unless it counts as true, and a `VARCHAR` has the default length. -/
def make (name : Value) (type : SqlType) (nullable unique isKey field length : Value) :
    Result Column := do
  let checked ← checkName "column name" name
  .ok {
    name := checked
    type, nullable, unique, isKey
    field := if field.truthy then field else name
    length := if type = .varchar && length.isNull then .int defaultLength else length }

def argumentNames : List String :=
  ["name", "sql_type", "nullable", "unique", "is_primary_key", "field_name", "length"]

/-- The type of the column that some named arguments describe, which is given by its name. -/
def typeArgument (arguments : Arguments) : Result SqlType :=
  match (arguments.getD "sql_type" (.sqlType .text)).textOf?.bind SqlType.ofName? with
  | some t => .ok t
  | none => .error (.fault .missingKey)

/-- The column that some named arguments describe; only the name must be among them. -/
def ofArguments (arguments : Arguments) : Result Column := do
  let type ← typeArgument arguments
  if arguments.areAmong argumentNames then
    match arguments.get? "name" with
    | none => .error (.fault .wrongType)
    | some name =>
      make name type (arguments.getD "nullable" (.bool true))
        (arguments.getD "unique" (.bool false)) (arguments.getD "is_primary_key" (.bool false))
        (arguments.getD "field_name" (.text "")) (arguments.getD "length" .null)
  else .error (.fault .wrongType)

/-- The standard type of a column as it is written in a definition. -/
def standardType (c : Column) : String :=
  if c.type = .varchar then "VARCHAR(" ++ c.length.display ++ ")" else c.type.name

/-- The name of the attribute that the column stands for; only a text names one. -/
def fieldName (c : Column) : Result String :=
  match c.field.textOf? with
  | some s => .ok s
  | none => .error (.fault .wrongType)

/-- Does the column stand for the field, or have the name? -/
def answersTo (c : Column) (name : Value) : Bool :=
  c.name.toValue.sameKey name || c.field.sameKey name

/-- Do two columns collide, that is, stand for one field or have one name? -/
def collides (c d : Column) : Bool := c.field.sameKey d.field || c.name.text == d.name.text

theorem collides_comm (c d : Column) : c.collides d = d.collides c := by
  simp [collides, Value.sameKey_comm, Bool.beq_comm]

end Column

/-- What the library knows of a model: its table and its columns, in the order of declaration. -/
structure Entity where
  model : ModelId
  table : Name
  columns : List Column
deriving Repr

namespace Entity

def columnNames (e : Entity) : List String := e.columns.map fun c => c.name.text

/-- The column that is the primary key, if there is one. -/
def key? (e : Entity) : Option Column := e.columns.find? fun c => c.isKey.truthy

/-- The column that has a name or stands for a field of that name. -/
def column? (e : Entity) (name : Value) : Option Column :=
  e.columns.find? fun c => c.answersTo name

def fieldColumns (e : Entity) : Row :=
  .ofEntries (e.columns.map fun c => (c.field, c.name.toValue))

end Entity

end RelMap
