import RelMap.Catalog
import RelMap.Condition

/-!
# Queries

A `Query` describes one statement: its kind, its table and the parts that statements of the kind
have.  Each call of the builder yields a new query with one part set or extended, so a query can be
shared and extended in several ways.  Calls check their arguments; whether the parts fit together is
checked when the statement is written (`RelMap.Query.Statement`).

A query whose table was given by a model remembers the model.
-/

namespace RelMap

inductive Kind where
  | select
  | insert
  | update
  | delete
deriving DecidableEq, Repr, Inhabited

namespace Kind

def word : Kind → String
  | select => "SELECT"
  | insert => "INSERT"
  | update => "UPDATE"
  | delete => "DELETE"

def toValue (k : Kind) : Value := .text k.word

def ofValue? (v : Value) : Option Kind :=
  match v.textOf? with
  | some "SELECT" => some select
  | some "INSERT" => some insert
  | some "UPDATE" => some update
  | some "DELETE" => some delete
  | _ => none

theorem ofValue?_toValue (k : Kind) : ofValue? k.toValue = some k := by cases k <;> rfl

end Kind

/-- A column of an ordering; the direction is kept as it was given and is descending if it counts as
true. -/
structure Ordering where
  column : Value
  descending : Value
deriving Repr, Inhabited

abbrev Cell := Value × Value

/-- The description of one statement.  What was given is kept as it was given; a part that is null
is not set. -/
structure Query where
  kind : Value := .null
  table : Value := .null
  model : Option ModelId := none
  columns : List Value := []
  distinct : Value := .bool false
  values : List Cell := []
  defaultValues : Value := .bool false
  assignments : List Cell := []
  conditions : List Condition := []
  ordering : List Ordering := []
  limit : Value := .null
  offset : Value := .null
  returning : List Value := []
deriving Repr, Inhabited

namespace Query

/-! ## Arguments -/

def allColumns : Value := .text "*"

def columnName (v : Value) : Result Value := (checkName "column name" v).map fun _ => v

/-- The table that an argument names, and the model if it was given by one. -/
def target (catalog : Catalog) : ModelArgument → Result (Value × Option ModelId)
  | .model m => do
    let e ← catalog.entity m
    .ok (e.table.toValue, some m)
  | .value v => do
    let _ ← checkName "table name" v
    .ok (v, none)

/-- The columns that an argument asks for: a list of names, or the word for all of them. -/
def projection (columns : Value) : Result (List Value) :=
  match columns.textOf? with
  | some s =>
    let word := Text.lower s
    if word == "*" || word == "all" then .ok [allColumns] else .error (.projectionText columns)
  | none =>
    match columns.items? with
    | some items => items.mapM columnName
    | none => .error (.fault .wrongType)

/-- One column of a row: a checked name and a parameter. -/
def cell (entry : Value × Value) : Result Cell := do
  let n ← columnName entry.1
  let p ← entry.2.toParameter
  .ok (n, p)

def cells (data : Value) : Result (List Cell) :=
  match data with
  | .map entries => entries.mapM cell
  | _ => .error .rowNotMap

/-- Checks that a value is a count; truth values are none. -/
def count (clause : String) (v : Value) : Result Value :=
  match v, v.intOf? with
  | .bool _, _ => .error (.countNotInteger clause v)
  | v, some n => if n < 0 then .error (.countNegative clause v) else .ok v
  | v, none => .error (.countNotInteger clause v)

/-! ## Calls -/

def select (q : Query) (columns : Value := .text "*") (distinct : Value := .bool false) :
    Result Query := do
  let names ← projection columns
  .ok { q with kind := Kind.select.toValue, columns := names, distinct := distinct }

def fromTable (q : Query) (catalog : Catalog) (table : ModelArgument) : Result Query := do
  let (name, model) ← target catalog table
  .ok { q with table := name, model := model }

def insert (q : Query) (catalog : Catalog) (table : ModelArgument) (row : Value) :
    Result Query := do
  let row ← cells row
  let (name, model) ← target catalog table
  .ok { q with
    kind := Kind.insert.toValue, values := row, defaultValues := .bool false
    table := name, model := model }

def insertDefaults (q : Query) (catalog : Catalog) (table : ModelArgument) : Result Query := do
  let (name, model) ← target catalog table
  .ok { q with
    kind := Kind.insert.toValue, values := [], defaultValues := .bool true
    table := name, model := model }

def update (q : Query) (catalog : Catalog) (table : ModelArgument) (row : Value) :
    Result Query := do
  let row ← cells row
  let (name, model) ← target catalog table
  .ok { q with kind := Kind.update.toValue, assignments := row, table := name, model := model }

def delete (q : Query) (catalog : Catalog) (table : ModelArgument) : Result Query := do
  let (name, model) ← target catalog table
  .ok { q with kind := Kind.delete.toValue, table := name, model := model }

/-- Adds a condition that was made before; no operator may be given with it. -/
def whereCondition (q : Query) (c : Condition) (operator : Value := .null) : Result Query :=
  if operator.isNull then .ok { q with conditions := q.conditions ++ [c] }
  else .error .conditionWithOperator

def whereColumn (q : Query) (column operator value : Value) : Result Query :=
  if operator.isNull then .error .operatorMissing
  else do
    let c ← Condition.make column operator value
    .ok { q with conditions := q.conditions ++ [c] }

def orderBy (q : Query) (column : Value) (descending : Value := .bool false) : Result Query := do
  let n ← columnName column
  .ok { q with ordering := q.ordering ++ [⟨n, descending⟩] }

def withLimit (q : Query) (n : Value) : Result Query := do
  let c ← count "limit" n
  .ok { q with limit := c }

def withOffset (q : Query) (n : Value) : Result Query := do
  let c ← count "offset" n
  .ok { q with offset := c }

/-- Sets the columns that an insertion, update or deletion returns. -/
def returningColumns (q : Query) (columns : List Value) : Result Query :=
  if columns.isEmpty then .error .returningNothing
  else do
    let names ← columns.mapM columnName
    .ok { q with returning := names }

/-! ## Parts by name -/

/-- The names of the parts that a query can be put together from. -/
def partNames : List String :=
  ["kind", "table", "model", "columns", "distinct", "values", "default_values", "assignments",
   "predicates", "ordering", "limit_count", "offset_count", "returning_columns"]

def listed (v : Value) : Result (List Value) :=
  match v.items? with
  | some items => .ok items
  | none => .error (.fault .wrongType)

def listedCells (v : Value) : Result (List Cell) := do
  (← listed v).mapM fun e =>
    match e.items? with
    | some [n, x] => .ok (n, x)
    | some _ => .error (.fault .wrongValue)
    | none => .error (.fault .wrongType)

/-- The query that some named parts make up, which are taken as they are. -/
def ofArguments (parts : Arguments) : Result Query :=
  if parts.areAmong partNames then do
    let columns ← listed (parts.getD "columns" (.list []))
    let values ← listedCells (parts.getD "values" (.list []))
    let assignments ← listedCells (parts.getD "assignments" (.list []))
    let returning ← listed (parts.getD "returning_columns" (.list []))
    .ok {
      kind := parts.getD "kind" .null
      table := parts.getD "table" .null
      columns, values, assignments, returning
      distinct := parts.getD "distinct" (.bool false)
      defaultValues := parts.getD "default_values" (.bool false)
      limit := parts.getD "limit_count" .null
      offset := parts.getD "offset_count" .null }
  else .error (.fault .wrongType)

end Query

end RelMap
