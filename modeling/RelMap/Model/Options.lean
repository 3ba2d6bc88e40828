import RelMap.TypeHint.Inference
import RelMap.Column
import RelMap.ColumnType

/-!
# Column options

What the author of a model may say about the column of a field.  Everything may be left out: the
type then follows from the field's hint, and so does whether the column may be null, unless
the column is the primary key.
-/

namespace RelMap

/-- Options of a column; the absent value leaves an option out. -/
structure ColumnOptions where
  type : Value := .null
  name : Value := .null
  length : Value := .null
  nullable : Value := .null
  unique : Value := .bool false
  isKey : Value := .bool false
deriving Repr, Inhabited

namespace ColumnOptions

def set (o : ColumnOptions) (name : String) (v : Value) : Result ColumnOptions :=
  match name with
  | "type" => .ok { o with type := v }
  | "name" => .ok { o with name := v }
  | "length" => .ok { o with length := v }
  | "nullable" => .ok { o with nullable := v }
  | "unique" => .ok { o with unique := v }
  | "primary_key" => .ok { o with isKey := v }
  | _ => .error (.fault .wrongType)

def ofArguments (arguments : Arguments) : Result ColumnOptions :=
  arguments.foldlM (fun o e => o.set e.1 e.2) {}

/-- The column type that the options and the hint of a field ask for. -/
def columnType (o : ColumnOptions) (hint : FieldType) : Result ColumnType :=
  if o.type.isNull then .ok { type := hint.sqlType } else ColumnType.ofValue o.type

def nullability (o : ColumnOptions) (hint : FieldType) : Value :=
  if !o.nullable.isNull then o.nullable
  else if o.isKey.truthy then .bool false
  else .bool hint.isOptional

/-- The length of a column of a type, which only `VARCHAR` has. -/
def lengthFor (o : ColumnOptions) (t : ColumnType) : Value :=
  if t.type = .varchar then
    if !o.length.isNull then o.length
    else match t.length with
      | some n => .int n
      | none => .null
  else .null

def column (o : ColumnOptions) (field : Value) (hint : FieldType) : Result Column := do
  let t ← o.columnType hint
  Column.make (if o.name.truthy then o.name else field) t.type (o.nullability hint)
    o.unique o.isKey field (o.lengthFor t)

end ColumnOptions

end RelMap
