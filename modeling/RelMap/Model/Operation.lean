import RelMap.Value

/-!
# Operations of models

The operations that a persistent model offers under names of its own.  Some belong to the model, the
others to its instances.  A field or an attribute of the same name hides an operation, and a field
that stands bare in the body of a class takes what it hides for its default.
-/

namespace RelMap

inductive Operation where
  | metadata
  | query
  | load
  | get
  | all
  | columnValues
  | validate
  | save
  | delete
  | insert
deriving DecidableEq, Repr

namespace Operation

def name : Operation → String
  | metadata => "metadata"
  | query => "query"
  | load => "from_row"
  | get => "get"
  | all => "all"
  | columnValues => "to_dict"
  | validate => "validate"
  | save => "save"
  | delete => "delete"
  | insert => "_insert"

def every : List Operation :=
  [metadata, query, load, get, all, columnValues, validate, save, delete, insert]

def ofName? (s : String) : Option Operation := every.find? fun o => o.name == s

/-- Does the operation belong to the model rather than to its instances? -/
def isOfModel : Operation → Bool
  | metadata | query | load | get | all => true
  | _ => false

/-- An operation as a value, as it is found on the model. -/
def onModel (o : Operation) : Value := .foreign (if o.isOfModel then "method" else "function")

/-- An operation as a value, as it is found on an instance. -/
def onInstance : Value := .foreign "method"

theorem ofName?_name (o : Operation) : ofName? o.name = some o := by cases o <;> decide

end Operation

end RelMap
