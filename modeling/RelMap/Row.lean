import RelMap.Value.Key
import RelMap.Value.Literal

/-!
# Rows

A row has values under keys, in the order in which the keys first came.  A key that comes again
keeps its place and takes the new value.  Which keys are the same is said in `RelMap.Value.Key`; in
particular a labelled constant that passes for text is the same key as that text.
-/

namespace RelMap

/-- Values under keys, in the order of the keys. -/
abbrev Row := List (Value × Value)

namespace Row

def put (k v : Value) : Row → Row
  | [] => [(k, v)]
  | e :: rest => if e.1.sameKey k then (e.1, v) :: rest else e :: put k v rest

/-- The row that some entries make, one after the other. -/
def ofEntries (entries : List (Value × Value)) : Row :=
  entries.foldl (fun r e => put e.1 e.2 r) []

/-- The row that puts values under names, as far as there are both. -/
def ofColumns (names : List String) (values : List Value) : Row :=
  ofEntries ((names.map Value.text).zip values)

def get? (name : String) : Row → Option Value
  | [] => none
  | e :: rest => if e.1.key? = some [.text name] then some e.2 else get? name rest

end Row

/-- The members that some values make of a set: of equal ones the first. -/
def Value.distinct (vs : List Value) : List Value :=
  (Row.ofEntries (vs.map fun v => (v, .null))).map Prod.fst

end RelMap
