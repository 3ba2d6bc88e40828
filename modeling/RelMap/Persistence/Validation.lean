import RelMap.Catalog
import RelMap.Number.Comparison

/-!
# Validation of instances

An instance is checked against the constraints of its columns before it is written: a column that is
neither nullable nor the key must have a value, and a text in a `VARCHAR` column must not be longer
than the column.
-/

namespace RelMap

/-- Is a value less than a count?  Only numbers can be compared. -/
def Value.isBelow (v : Value) (n : Nat) : Result Bool :=
  match v with
  | .real x => .ok (x.isBelow n)
  | .decimal d => ((d.isBelow? n).map Except.ok).getD (.error (.fault .badNumber))
  | v =>
    match v.intOf? with
    | some k => .ok (k < n)
    | none => .error (.fault .wrongType)

namespace Column

def isTooLong (c : Column) (v : Value) : Result Bool :=
  match v.textOf? with
  | some s =>
    if c.type = .varchar && !c.length.isNull then c.length.isBelow s.length else .ok false
  | none => .ok false

def validate (c : Column) (v : Value) : Result Unit :=
  if v.isNull then
    if !c.nullable.truthy && !c.isKey.truthy then .error (.fieldNull c.field) else .ok ()
  else do
    if ← c.isTooLong v then .error (.fieldTooLong c.field c.length) else .ok ()

end Column

namespace Catalog

def validate (catalog : Catalog) (e : Entity) (i : Instance) : Result Unit :=
  e.columns.forM fun c => do c.validate (← catalog.valueIn i c)

/-- Checks the values of an instance, as the instance itself offers to. -/
def selfCheck (catalog : Catalog) (i : Instance) : Result Unit := do
  catalog.offersOn i .validate
  catalog.validate (← catalog.entity i.model) i

end Catalog

end RelMap
