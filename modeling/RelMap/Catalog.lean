import RelMap.Model.Mapping

/-!
# The catalog

The catalog holds the model classes and two registries: one of the caller's own and the shared one.
A class is mapped into one of them and remembers which; classes derived from it look there too, and
a class that was never mapped looks into the shared registry.
-/

namespace RelMap

structure Catalog where
  classes : List ModelClass
  own : Registry
  shared : Registry
deriving Repr

/-- An instance of a model with the values of its attributes. -/
structure Instance where
  model : ModelId
  attributes : List (String × Value)
deriving Repr, Inhabited

namespace Catalog

def empty : Catalog := ⟨[], .empty, .empty⟩

/-! ## Registries -/

def registry (c : Catalog) : Scope → Registry
  | .own => c.own
  | .shared => c.shared

def withRegistry (c : Catalog) (s : Scope) (r : Registry) : Catalog :=
  match s with
  | .own => { c with own := r }
  | .shared => { c with shared := r }

def class? (c : Catalog) (m : ModelId) : Option ModelClass := c.classes.find? fun k => k.id = m

/-- The class of a model and its base classes, nearest first. -/
def lineage (c : Catalog) (m : ModelId) : List ModelClass :=
  match c.class? m with
  | some k => k :: k.ancestors.filterMap c.class?
  | none => []

def scopeOf (c : Catalog) (m : ModelId) : Scope :=
  ((c.lineage m).findSome? ModelClass.home).getD .shared

/-- The metadata of a model, where the model looks for it. -/
def entity (c : Catalog) (m : ModelId) : Result Entity := (c.registry (c.scopeOf m)).entity m

/-! ## Classes -/

/-- The catalog with a class put in the place of the one it describes, or added. -/
def putClass (c : Catalog) (k : ModelClass) : Catalog :=
  if c.classes.any fun j => j.id = k.id then
    { c with classes := c.classes.map fun j => if j.id = k.id then k else j }
  else { c with classes := c.classes ++ [k] }

/-- Declares a class with a body of fields, derived from a base class if one is named. -/
def declare (c : Catalog) (id : ModelId) (base : Option ModelId) (persistent : Bool)
    (body : List FieldSpec) : Catalog :=
  let bases := (base.map c.lineage).getD []
  c.putClass (.ofSpec id (bases.map ModelClass.id)
    (persistent || bases.any ModelClass.persistent) body)

def isPersistent (c : Catalog) (m : ModelId) : Bool :=
  match c.class? m with
  | some k => k.persistent
  | none => false

/-- The fields of a model, its own or those of its nearest composed base class. -/
def fields? (c : Catalog) (m : ModelId) : Option (List Field) :=
  (c.lineage m).findSome? ModelClass.fields

def compose (c : Catalog) (m : ModelId) : Catalog × Option Error :=
  match c.lineage m with
  | [] => (c, none)
  | k :: bases =>
    match k.compose bases with
    | .ok (k, e) => (c.putClass k, e)
    | .error e => (c, some e)

def evaluatedHint (k : ModelClass) : FieldType → Hinted TypeHint
  | .missing => .ok .nullType
  | .type a => .ok a
  | .text s => TypeHint.ofTextIn k.namedValues s

/-- The hints of a model and its base classes, evaluated in the class that each stands in. -/
def evaluatedHints (c : Catalog) (m : ModelId) : Hinted (List (String × TypeHint)) :=
  (c.lineage m).reverse.foldlM (fun hints k =>
    k.hints.foldlM (fun hints e => (evaluatedHint k e.2).map fun a => putPair e.1 a hints) hints) []

/-- The hints by which the fields of a model are mapped: the evaluated ones if all of the model can
be evaluated, else those in the body of the class, else the fields' own.  A text that is no
expression is not passed over, and neither is a hint that is looked for in a map. -/
def mappingHints (c : Catalog) (m : ModelId) : Result (Field → FieldType) :=
  match c.evaluatedHints m with
  | .ok hints => .ok fun f => ((getPair? f.name hints).map .type).getD f.type
  | .error .unresolved =>
    let own := ((c.class? m).map ModelClass.hints).getD []
    .ok fun f => (getPair? f.name own).getD f.type
  | .error .notFound => .error (.fault .missingKey)
  | .error .malformed => .error (.fault .malformed)

/-- Maps a model to a table in a registry: composes its class unless it is or derives from a record
class, adds a column for each field that is not opted out, names the table and registers the
model. -/
def mapModel (c : Catalog) (s : Scope) (m : ModelId) (table : Value) :
    Catalog × List Event × Option Error :=
  let (c, failure) := if (c.fields? m).isSome then (c, none) else c.compose m
  match failure, c.mappingHints m with
  | some e, _ => (c, [], some e)
  | none, .error e => (c, [], some e)
  | none, .ok hints =>
    let (r, failure) := (c.registry s).collectFields m hints ((c.fields? m).getD [])
    let c := c.withRegistry s r
    match failure with
    | some e => (c, [], some e)
    | none =>
      match r.collectEntity m table with
      | .error e => (c, [], some e)
      | .ok (r, events) =>
        let c := c.withRegistry s r
        (match c.class? m with
          | some k => c.putClass { k with home := some s }
          | none => c, events, none)

/-! ## Instances -/

/-- Makes an instance of a model from named arguments; a model without a constructor takes none. -/
def instantiate (c : Catalog) (m : ModelId) (arguments : Arguments) : Result Instance :=
  match (c.lineage m).findSome? ModelClass.constructor with
  | some fields => (ModelClass.instantiate fields arguments).map fun as => ⟨m, as⟩
  | none => if arguments.isEmpty then .ok ⟨m, []⟩ else .error (.fault .wrongType)

/-- The named arguments that a row makes; its keys must be texts. -/
def argumentsOf (r : Row) : Result Arguments :=
  r.mapM fun e =>
    match e.1.textOf? with
    | some name => .ok (name, e.2)
    | none => .error (.fault .wrongType)

/-- Makes an instance of a model from the entries of a row. -/
def make (c : Catalog) (m : ModelId) (r : Row) : Result Instance := do
  c.instantiate m (← argumentsOf r)

/-- The attribute of an instance: its own, or that of its class, where a field object may be left,
or an operation. -/
def attributeOf (c : Catalog) (i : Instance) (name : String) : Result Value :=
  match (getPair? name i.attributes).or
      ((c.lineage i.model).findSome? fun k => getPair? name k.namedValues) with
  | some v => .ok v
  | none =>
    if c.isPersistent i.model && (Operation.ofName? name).isSome then .ok Operation.onInstance
    else .error (.fault .missingAttribute)

def valueIn (c : Catalog) (i : Instance) (column : Column) : Result Value := do
  c.attributeOf i (← column.fieldName)

/-- The fields of an instance with their values, in the order of the model's fields. -/
def fieldValues (c : Catalog) (i : Instance) : Result (List (String × Value)) :=
  match c.fields? i.model with
  | none => .error (.fault .wrongType)
  | some fields => fields.mapM fun f => (c.attributeOf i f.name).map fun v => (f.name, v)

/-- An instance with the values of its fields, as a value. -/
def recordOf (c : Catalog) (i : Instance) : Result Value :=
  (c.fieldValues i).map (.record i.model)

/-- An instance as a value; a model that has no fields makes instances that show none. -/
def valueOf (c : Catalog) (i : Instance) : Value :=
  match c.recordOf i with
  | .ok v => v
  | .error _ => .record i.model []

/-! ## Operations -/

/-- Checks that a model offers an operation, and that nothing hides it. -/
def offers (c : Catalog) (m : ModelId) (o : Operation) : Result Unit :=
  if (ModelClass.attribute? (c.lineage m) o.name).isSome then .error (.fault .wrongType)
  else if c.isPersistent m then .ok () else .error (.fault .missingAttribute)

/-- Checks that an instance offers an operation, and that nothing hides it. -/
def offersOn (c : Catalog) (i : Instance) (o : Operation) : Result Unit :=
  if (getPair? o.name i.attributes).isSome then .error (.fault .wrongType) else c.offers i.model o

end Catalog

def Instance.set (i : Instance) (name : String) (v : Value) : Instance :=
  { i with attributes := putPair name v i.attributes }

/-- What a caller names a model by: the model itself, or a value, which stands for its type. -/
inductive ModelArgument where
  | model (m : ModelId)
  | value (v : Value)
deriving Repr

def ModelArgument.modelId : ModelArgument → ModelId
  | model m => m
  | value v => v.modelId

end RelMap
