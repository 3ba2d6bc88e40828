import RelMap.Query.Basic

/-!
# Builder calls

A `BuilderCall` is one call of the query builder with its arguments, and `BuilderCall.run` makes it.
Arguments are evaluated before the call is made: a model argument may be a new instance of a model,
which is made first, and a condition may be given by a comparison.
-/

namespace RelMap

/-- How a caller writes a model argument: as such, or as a new instance of a model. -/
inductive ModelTerm where
  | argument (a : ModelArgument)
  | fresh (m : ModelId) (arguments : Row)
deriving Repr

/-- The argument that a term stands for; an instance passes as a value. -/
def ModelTerm.evaluate (catalog : Catalog) : ModelTerm → Result ModelArgument
  | argument a => .ok a
  | fresh m arguments =>
    (catalog.make m arguments).map fun i => .value (catalog.valueOf i)

inductive BuilderCall where
  /-- A query that is put together from named parts. -/
  | start (parts : Arguments)
  | ofModel (m : ModelId)
  | select (columns distinct : Value)
  | fromTable (table : ModelTerm)
  | insert (table : ModelTerm) (row : Value)
  | insertDefaults (table : ModelTerm)
  | update (table : ModelTerm) (row : Value)
  | delete (table : ModelTerm)
  | whereColumn (column operator value : Value)
  /-- A condition that is put together from named parts. -/
  | whereParts (parts : Arguments) (operator : Value)
  | whereComparison (c : Comparison) (column : Value) (value : Option Value) (operator : Value)
  | orderBy (column descending : Value)
  | limit (n : Value)
  | offset (n : Value)
  /-- The elements of a value as the columns. -/
  | returning (columns : Value)
deriving Repr

/-- The selection of all of a model, which is an operation of the model. -/
def Query.ofModel (catalog : Catalog) (m : ModelId) : Result Query := do
  catalog.offers m .query
  let q ← Query.select {}
  q.fromTable catalog (.model m)

def BuilderCall.run (catalog : Catalog) (q : Query) : BuilderCall → Result Query
  | start parts => Query.ofArguments parts
  | ofModel m => Query.ofModel catalog m
  | select columns distinct => q.select columns distinct
  | fromTable table => do q.fromTable catalog (← table.evaluate catalog)
  | insert table row => do q.insert catalog (← table.evaluate catalog) row
  | insertDefaults table => do q.insertDefaults catalog (← table.evaluate catalog)
  | update table row => do q.update catalog (← table.evaluate catalog) row
  | delete table => do q.delete catalog (← table.evaluate catalog)
  | whereColumn column operator value => q.whereColumn column operator value
  | whereParts parts operator => do q.whereCondition (← Condition.ofArguments parts) operator
  | whereComparison c column value operator => do
    q.whereCondition (← c.condition column value) operator
  | orderBy column descending => q.orderBy column descending
  | limit n => q.withLimit n
  | offset n => q.withOffset n
  | returning columns =>
    match columns.items? with
    | some items => q.returningColumns items
    | none => .error (.fault .wrongType)

def Query.runCalls (catalog : Catalog) (q : Query) (calls : List BuilderCall) : Result Query :=
  calls.foldlM (BuilderCall.run catalog) q

end RelMap
