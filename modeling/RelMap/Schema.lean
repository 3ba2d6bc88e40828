import RelMap.Catalog
import RelMap.Dialect

/-!
# Table definitions

The statements that create and drop the table of a model.  A table has one column definition for
each column of the model, in their order.  An integer key is defined as the dialect defines keys
that the database numbers by itself; any other column by its name, its type and its constraints, of
which a key has none beside being the key.
-/

namespace RelMap

def Dialect.columnType (d : Dialect) (c : Column) : String :=
  if c.type = .varchar then c.standardType else d.typeName c.type

namespace Column

/-- The constraints of a column, as they are written behind its type. -/
def constraints (c : Column) : List String :=
  if c.isKey.truthy then ["PRIMARY KEY"]
  else (if c.nullable.truthy then [] else ["NOT NULL"]) ++
    (if c.unique.truthy then ["UNIQUE"] else [])

def definition (c : Column) (d : Dialect) : String :=
  if c.isKey.truthy && c.type = .integer then d.serialKey c.name.shown
  else " ".intercalate (c.name.text :: d.columnType c :: c.constraints)

end Column

namespace Entity

def createTable (e : Entity) (d : Dialect) (ifAbsent : Bool) : String :=
  (if ifAbsent then "CREATE TABLE IF NOT EXISTS " else "CREATE TABLE ") ++ e.table.shown ++
    " (\n  " ++ ",\n  ".intercalate (e.columns.map fun c => c.definition d) ++ "\n)"

def dropTable (e : Entity) (ifPresent : Bool) : String :=
  (if ifPresent then "DROP TABLE IF EXISTS " else "DROP TABLE ") ++ e.table.shown

end Entity

end RelMap
