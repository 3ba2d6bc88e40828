/-!
# Column types

The portable column types: every dialect has a name for each of them.
-/

namespace RelMap

inductive SqlType where
  | integer
  | real
  | numeric
  | text
  | varchar
  | boolean
  | timestamp
  | date
  | blob
deriving DecidableEq, Repr, Inhabited

namespace SqlType

def name : SqlType → String
  | integer => "INTEGER"
  | real => "REAL"
  | numeric => "NUMERIC"
  | text => "TEXT"
  | varchar => "VARCHAR"
  | boolean => "BOOLEAN"
  | timestamp => "TIMESTAMP"
  | date => "DATE"
  | blob => "BLOB"

def all : List SqlType :=
  [integer, real, numeric, text, varchar, boolean, timestamp, date, blob]

def ofName? (s : String) : Option SqlType := all.find? fun t => t.name == s

theorem mem_all (t : SqlType) : t ∈ all := by cases t <;> decide

theorem ofName?_name (t : SqlType) : ofName? t.name = some t := by cases t <;> decide

end SqlType

end RelMap
