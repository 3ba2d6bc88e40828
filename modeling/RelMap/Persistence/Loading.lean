import RelMap.Calendar.Reading
import RelMap.Catalog
import RelMap.Row

/-!
# Loading instances from rows

A database may hand back a value in the form in which it was bound: truth values as numbers, times
and days as ISO text, decimal numbers as text or as numbers.  `Column.load` brings such a value back
into the form of the column's type, and `Catalog.load` makes an instance of a row, whose values
stand under the names of columns.
-/

namespace RelMap

namespace Column

def load (c : Column) (v : Value) : Result Value :=
  match c.type with
  | .boolean => .ok ((v.intOf?.map fun n => Value.bool (n ≠ 0)).getD v)
  | .timestamp =>
    match v.textOf? with
    | some s => ((Moment.instantOfText? s).map fun m => .ok (Value.moment m)).getD
        (.error (.fault .wrongValue))
    | none => .ok v
  | .date =>
    match v.textOf? with
    | some s => ((Date.ofText? s).map fun d => .ok (Value.moment (.day d))).getD
        (.error (.fault .wrongValue))
    | none => .ok v
  | .numeric =>
    if v.textOf?.isSome || v.intOf?.isSome || v matches .real _ then
      ((Decimal.ofText? v.display).map fun d => .ok (Value.decimal d)).getD
        (.error (.fault .badNumber))
    else .ok v
  | _ => .ok v

theorem load_null (c : Column) : c.load .null = .ok .null := by
  unfold load
  split <;> rfl

end Column

namespace Entity

/-- The fields of an instance that a row has columns for, with their values. -/
def load (e : Entity) (r : Row) : Result (List (String × Value)) := do
  let fields ← e.columns.mapM fun c =>
    match r.get? c.name.text with
    | none => .ok none
    | some v => do .ok (some (← c.fieldName, ← c.load v))
  .ok (fields.filterMap id)

/-- The column that is the primary key; fails if there is none. -/
def requireKey (e : Entity) : Result Column :=
  match e.key? with
  | some c => .ok c
  | none => .error (.keyMissing e.model.name)

end Entity

namespace Catalog

/-- The metadata of a model, as the model itself offers them. -/
def metadata (catalog : Catalog) (m : ModelId) : Result Entity := do
  catalog.offers m .metadata
  catalog.entity m

def load (catalog : Catalog) (m : ModelId) (r : Row) : Result Instance := do
  catalog.offers m .load
  let e ← catalog.entity m
  catalog.instantiate m (← e.load r)

def columnValues (catalog : Catalog) (e : Entity) (i : Instance) :
    Result (List (Name × Value)) :=
  e.columns.mapM fun c => (catalog.valueIn i c).map fun v => (c.name, v)

/-- The values of an instance under the names of its columns, as the instance itself offers them. -/
def dictionary (catalog : Catalog) (i : Instance) : Result (List (Name × Value)) := do
  catalog.offersOn i .columnValues
  catalog.columnValues (← catalog.entity i.model) i

end Catalog

end RelMap
