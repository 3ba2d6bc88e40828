import RelMap.Model.Class
import RelMap.Registry

/-!
# Mapping models to tables

The declarations that bring a model into a registry: one column after the other, then the table's
name, then registration.  A declaration that fails part of the way leaves the columns before the
failure in the registry, but the model unregistered.
-/

namespace RelMap

namespace Registry

def collectColumn (r : Registry) (m : ModelId) (o : ColumnOptions) (field : Value)
    (hint : FieldType) : Result (Registry × Column) := do
  let c ← o.column field hint
  let r ← r.addColumn m c
  .ok (r, c)

/-- Adds the column of a field, unless the field is opted out. -/
def collectField (r : Registry) (m : ModelId) (f : Field) (hint : FieldType) :
    Result Registry :=
  match f.mapping with
  | .off => .ok r
  | .invalid => .error (.columnOptionsExpected m.name f.name)
  | .options o => (r.collectColumn m o (.text f.name) hint).map Prod.fst

/-- Adds the columns of several fields up to the first that fails. -/
def collectFields (r : Registry) (m : ModelId) (hint : Field → FieldType) :
    List Field → Registry × Option Error
  | [] => (r, none)
  | f :: rest =>
    match r.collectField m f (hint f) with
    | .ok r => collectFields r m hint rest
    | .error e => (r, some e)

/-- The name of a model's table: the given one, or the model's name in small letters if none is
given. -/
def tableName (m : ModelId) (given : Value) : Value :=
  if given.truthy then given else .text (Text.lower m.name)

/-- Names the table of a model and registers the model.  A model may be given by an instance, which
has no name of its own for the table. -/
def collectEntity (r : Registry) (m : ModelId) (table : Value) (byInstance : Bool := false) :
    Result (Registry × List Event) :=
  if byInstance && !table.truthy then .error (.fault .missingAttribute)
  else do
    let r ← r.setTable m (tableName m table)
    .ok (r.register m)

end Registry

end RelMap
