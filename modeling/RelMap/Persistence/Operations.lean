import RelMap.Persistence.Loading
import RelMap.Persistence.Validation
import RelMap.Query.Call
import RelMap.Query.Statement
import RelMap.Schema
import RelMap.Session.Operations

/-!
# Persistence

Finding, saving and deleting instances of models, and creating the tables of models.

`Catalog.save` inserts an instance whose key is absent and gives it the key that the database
reports; an instance that has its key is updated, and inserted with the key if no row was touched.
`Catalog.applySchema` creates tables in one transaction.
-/

namespace RelMap

/-- Writes a query in the dialect of the adapter and runs it. -/
def Query.execute (q : Query) (catalog : Catalog) : Run QueryResult := do
  let s ← .ofResult (q.build catalog (← Run.adapter).dialect)
  Run.execute s.sql (.list s.params)

namespace Query

def whereKey (q : Query) (key : Column) (v : Value) : Result Query :=
  q.whereColumn key.name.toValue (.text "=") v

def limitOne (q : Query) : Result Query := q.withLimit (.int 1)

end Query

def rowOfPairs (pairs : List (Name × Value)) : Value :=
  .map (pairs.map fun p => (p.1.toValue, p.2))

namespace Catalog

/-! ## Finding -/

def get (catalog : Catalog) (m : ModelId) (v : Value) : Run (Option Instance) := do
  let q ← .ofResult do
    catalog.offers m .get
    let key ← (← catalog.entity m).requireKey
    (← (← Query.ofModel catalog m).whereKey key v).limitOne
  match (← q.execute catalog).first? with
  | some row => return some (← .ofResult (catalog.load m row))
  | none => return none

def all (catalog : Catalog) (m : ModelId) : Run (List Instance) := do
  let q ← .ofResult do
    catalog.offers m .all
    Query.ofModel catalog m
  let r ← q.execute catalog
  .ofResult (r.rows.mapM (catalog.load m))

/-! ## Saving -/

/-- The key that the database reports after an insertion: the returned column where the dialect
returns columns, and the row number that the driver reports elsewhere. -/
def reportedKey (d : Dialect) (key : Column) (r : QueryResult) : Result Value :=
  if d.returning.truthy then
    match r.first? with
    | some row =>
      match row.get? key.name.text with
      | some v => .ok v
      | none => .error (.fault .missingKey)
    | none => .ok .null
  else .ok r.lastRowId

def insertion (catalog : Catalog) (d : Dialect) (m : ModelId) (key : Column)
    (data : List (Name × Value)) : Result Query := do
  let q ←
    if data.isEmpty then Query.insertDefaults {} catalog (.model m)
    else Query.insert {} catalog (.model m) (rowOfPairs data)
  if d.returning.truthy then q.returningColumns [key.name.toValue] else .ok q

/-- Inserts an instance and gives it the key that the database reports, an operation that may be
hidden. -/
def insertNew (catalog : Catalog) (i : Instance) (key : Column) (data : List (Name × Value)) :
    Run Instance := do
  .ofResult (catalog.offersOn i .insert)
  let d := (← Run.adapter).dialect
  let q ← .ofResult (catalog.insertion d i.model key data)
  let v ← .ofResult (reportedKey d key (← q.execute catalog))
  if v.isNull then return i else return i.set (← .ofResult key.fieldName) v

/-- Writes an instance that has its key over its row, and says whether there was a row; if the key
is the only column, there is nothing to write and the row is looked for. -/
def overwrite (catalog : Catalog) (m : ModelId) (key : Column) (v : Value)
    (data : List (Name × Value)) : Run Bool :=
  if data.isEmpty then do
    let q ← .ofResult do
      let q ← Query.select {} (.list [key.name.toValue])
      (← (← q.fromTable catalog (.model m)).whereKey key v).limitOne
    return (← q.execute catalog).first?.isSome
  else do
    let q ← .ofResult do
      (← Query.update {} catalog (.model m) (rowOfPairs data)).whereKey key v
    return 0 < (← q.execute catalog).rowCount

def save (catalog : Catalog) (i : Instance) : Run Instance := do
  let (key, values) ← .ofResult do
    catalog.offersOn i .save
    let key ← (← catalog.entity i.model).requireKey
    catalog.selfCheck i
    .ok (key, ← catalog.dictionary i)
  let data := values.filter fun p => p.1.text ≠ key.name.text
  let v := ((values.find? fun p => p.1.text == key.name.text).map Prod.snd).getD .null
  if v.isNull then catalog.insertNew i key data
  else
    if ← catalog.overwrite i.model key v data then return i
    else
      let q ← .ofResult
        (Query.insert {} catalog (.model i.model) (rowOfPairs ((key.name, v) :: data)))
      let _ ← q.execute catalog
      return i

/-- Deletes the row of an instance and yields the number of rows that were deleted. -/
def delete (catalog : Catalog) (i : Instance) : Run Nat := do
  let q ← .ofResult do
    catalog.offersOn i .delete
    let key ← (← catalog.entity i.model).requireKey
    let v ← catalog.valueIn i key
    if v.isNull then .error .deleteWithoutKey
    else (← Query.delete {} catalog (.model i.model)).whereKey key v
  return (← q.execute catalog).rowCount

/-! ## Creating tables -/

def tableStatements (catalog : Catalog) (d : Dialect) (models : List ModelId) (ifAbsent : Bool) :
    Result (List String) :=
  models.mapM fun m => (catalog.entity m).map fun e => e.createTable d ifAbsent

/-- Creates the tables of some models in one transaction and yields the statements. -/
def applySchema (catalog : Catalog) (models : List ModelId) (ifAbsent : Bool) :
    Run (List String) := do
  let statements ← .ofResult
    (catalog.tableStatements (← Run.adapter).dialect models ifAbsent)
  Run.transaction (statements.forM fun sql => do let _ ← Run.execute sql)
  return statements

end Catalog

end RelMap
