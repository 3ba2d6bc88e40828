import RelMap.Column
import RelMap.Event
import RelMap.Text.Case

/-!
# The registry

A registry keeps a slot for each model that something was declared of: the table's name, the columns
so far and whether the model is registered.  Columns and the table's name may be declared before the
model is registered; only registered models have metadata.  Slots stand in the order in which they
were first needed.
-/

namespace RelMap

/-- What has been declared of a model so far. -/
structure Slot where
  table : Name
  columns : List Column
  registered : Bool
deriving Repr

/-- The slot of a model of which nothing was declared: the table has the model's name in small
letters. -/
def Slot.initial (m : ModelId) : Slot := ⟨.plain (Text.lower m.name), [], false⟩

/-- Declarations by model, in the order of the first declaration of each. -/
structure Registry where
  slots : List (ModelId × Slot)
deriving Repr

namespace Registry

def empty : Registry := ⟨[]⟩

def slot? (r : Registry) (m : ModelId) : Option Slot :=
  (r.slots.find? fun e => e.1 = m).map Prod.snd

def slot (r : Registry) (m : ModelId) : Slot := (r.slot? m).getD (.initial m)

/-- Replaces the slot of a model in a list, or appends it. -/
def putSlot (m : ModelId) (s : Slot) : List (ModelId × Slot) → List (ModelId × Slot)
  | [] => [(m, s)]
  | e :: rest => if e.1 = m then (m, s) :: rest else e :: putSlot m s rest

def put (r : Registry) (m : ModelId) (s : Slot) : Registry := ⟨putSlot m s r.slots⟩

def isRegistered (r : Registry) (m : ModelId) : Bool :=
  match r.slot? m with
  | some s => s.registered
  | none => false

/-- The registered models, in the order of their slots. -/
def models (r : Registry) : List ModelId :=
  (r.slots.filter fun e => e.2.registered).map Prod.fst

/-- Registers a model, which is reported the first time. -/
def register (r : Registry) (m : ModelId) : Registry × List Event :=
  let s := r.slot m
  if s.registered then (r, [])
  else (r.put m { s with registered := true },
    [.registered m.name s.table s.columns.length])

def setTable (r : Registry) (m : ModelId) (table : Value) : Result Registry := do
  let name ← checkName "table name" table
  .ok (r.put m { r.slot m with table := name })

/-- Why a column cannot join others: it collides with one of them, or both are primary keys. -/
def conflict? (model : String) (c : Column) : List Column → Option Error
  | [] => none
  | d :: rest =>
    if d.collides c then some (.columnDeclared model c.field)
    else if d.isKey.truthy && c.isKey.truthy then some (.keyDeclared model d.name)
    else conflict? model c rest

def addColumn (r : Registry) (m : ModelId) (c : Column) : Result Registry :=
  let s := r.slot m
  match conflict? m.name c s.columns with
  | some e => .error e
  | none => .ok (r.put m { s with columns := s.columns ++ [c] })

def entity (r : Registry) (m : ModelId) : Result Entity :=
  match r.slot? m with
  | some s => if s.registered then .ok ⟨m, s.table, s.columns⟩ else .error (.unregistered m.name)
  | none => .error (.unregistered m.name)

/-! ### The slots after a declaration -/

@[simp] theorem slot?_empty (m : ModelId) : empty.slot? m = none := rfl

theorem slot?_put_self (r : Registry) (m : ModelId) (s : Slot) :
    (r.put m s).slot? m = some s := by
  obtain ⟨slots⟩ := r
  simp only [put, slot?, Option.map_eq_some_iff]
  induction slots with
  | nil => exact ⟨(m, s), by simp [putSlot], rfl⟩
  | cons e rest ih =>
    by_cases h : e.1 = m
    · exact ⟨(m, s), by simp [putSlot, h], rfl⟩
    · simpa [putSlot, h] using ih

theorem slot?_put_of_ne (r : Registry) {m n : ModelId} (s : Slot) (h : n ≠ m) :
    (r.put m s).slot? n = r.slot? n := by
  obtain ⟨slots⟩ := r
  simp only [put, slot?]
  congr 1
  induction slots with
  | nil => simp [putSlot, Ne.symm h]
  | cons e rest ih =>
    by_cases he : e.1 = m
    · simp [putSlot, he, Ne.symm h]
    · by_cases hn : e.1 = n
      · simp [putSlot, hn, h]
      · simpa [putSlot, he, hn] using ih

end Registry

end RelMap
