import RelMap.Model.Field
import RelMap.Model.Operation
import RelMap.Text.Word

/-!
# Model classes

A model class has a body of annotated fields and perhaps a base class.  `ModelClass.compose` turns
it into a record class: the fields of the base classes come first, a field that is declared again
keeps its place, no field without a default may follow one with a default, and the names of the
fields must be free words.  An instance takes its fields as named arguments.
-/

namespace RelMap

/-- What a class keeps under a name: a value, or a field object until the class is composed. -/
inductive Attribute where
  | value (v : Value)
  | object (default : FieldDefault) (mapping : Mapping)
deriving Repr, Inhabited

/-- The registries that a model can be declared into: one of the caller's own, or the shared one. -/
inductive Scope where
  | own
  | shared
deriving DecidableEq, Repr

structure ModelClass where
  id : ModelId
  /-- The base classes, nearest first. -/
  ancestors : List ModelId
  /-- Has the class the operations of persistence? -/
  persistent : Bool
  hints : List (String × FieldType)
  attributes : List (String × Attribute)
  /-- The fields, once the class is composed. -/
  fields : Option (List Field)
  /-- The fields that an instance takes, if composition succeeded. -/
  constructor : Option (List Field)
  home : Option Scope
deriving Repr, Inhabited

/-- A list of pairs with the value of a key replaced, or a new pair at the end. -/
def putPair {α : Type} (key : String) (v : α) : List (String × α) → List (String × α)
  | [] => [(key, v)]
  | e :: rest => if e.1 == key then (key, v) :: rest else e :: putPair key v rest

def getPair? {α : Type} (key : String) (pairs : List (String × α)) : Option α :=
  (pairs.find? fun e => e.1 == key).map Prod.snd

/-- A list of fields with one replaced by a field of the same name, or a new field at the end. -/
def putField (f : Field) : List Field → List Field
  | [] => [f]
  | g :: rest => if g.name == f.name then f :: rest else g :: putField f rest

/-- Does no field without a default follow a field with a default? -/
def defaultsLast : List Field → Bool
  | [] => true
  | f :: rest =>
    (f.default.isRequired || rest.all fun g => !g.default.isRequired) && defaultsLast rest

/-- Values that change in place; they are no defaults. -/
def Value.isMutable : Value → Bool
  | .list _ => true
  | .set _ => true
  | .map _ => true
  | .bytes .array _ => true
  | _ => false

namespace ModelClass

def ofSpec (id : ModelId) (ancestors : List ModelId) (persistent : Bool) (body : List FieldSpec) :
    ModelClass where
  id := id
  ancestors := ancestors
  persistent := persistent
  hints := body.foldl (fun as f => putPair f.name f.hint as) []
  attributes := body.foldl (fun as f =>
    match f.source with
    | .bare => as
    | .plain v => putPair f.name (.value v) as
    | .object d m => putPair f.name (.object d m) as) []
  fields := none
  constructor := none
  home := none

/-- The attribute that is found under a name in a class or, failing that, in its base classes. -/
def attribute? (lineage : List ModelClass) (name : String) : Option Attribute :=
  lineage.findSome? fun c => getPair? name c.attributes

/-- What a name stands for on every class, or on every persistent class, without being declared. -/
def inherent? (persistent : Bool) (name : String) : Option Value :=
  match if persistent then Operation.ofName? name else none with
  | some o => some o.onModel
  | none => if name = "mro" then some (.foreign "builtin_function_or_method") else none

def ownField (lineage : List ModelClass) (persistent : Bool) (name : String) (type : FieldType) :
    Result Field :=
  let found := (attribute? lineage name).or ((inherent? persistent name).map .value)
  let field : Field := match found with
    | none => ⟨name, type, .none, .options {}⟩
    | some (.value v) => ⟨name, type, .value v, .options {}⟩
    | some (.object d m) => ⟨name, type, d, m⟩
  match field.default with
  | .value v => if v.isMutable then .error (.fault .wrongValue) else .ok field
  | _ => .ok field

/-- Does a class take the field object of a name from a base class, and is there no default that
could stand in its place?  Only a class's own field objects can be removed. -/
def keepsObject (lineage : List ModelClass) (c : ModelClass) (name : String) : Bool :=
  (getPair? name c.attributes).isNone &&
    match attribute? lineage name with
    | some (.object (.value _) _) => false
    | some (.object _ _) => true
    | _ => false

/-- The attributes of a class whose field objects have given way to their defaults; a field object
that is taken from a base class gives way in the class itself. -/
def settle (lineage : List ModelClass) (own : List Field) (attributes : List (String × Attribute)) :
    List (String × Attribute) :=
  own.foldl (fun as f =>
    match attribute? lineage f.name with
    | some (.object (.value v) _) => putPair f.name (.value v) as
    | _ => as)
    (attributes.filter fun e =>
      match e.2 with
      | .value _ => true
      | .object _ _ => !own.any fun f => f.name == e.1)

/-- The fields of the base classes, farthest first. -/
def inheritedFields (bases : List ModelClass) : List Field :=
  bases.reverse.foldl (fun fs b => (b.fields.getD []).foldl (fun fs f => putField f fs) fs) []

/-- Why fields make no constructor: their defaults do not come last, or one of their names is no
name. -/
def constructorFault? (fields : List Field) : Option Fault :=
  if !defaultsLast fields then some .wrongType
  else if fields.all fun f => Text.isFreeWord f.name then none
  else some .malformed

/-- Composes a class with its base classes, nearest first, into a record class.  A class whose
fields make no constructor has its fields and yet makes no instances. -/
def compose (bases : List ModelClass) (c : ModelClass) : Result (ModelClass × Option Error) := do
  let lineage := c :: bases
  let own ← c.hints.mapM fun e => ownField lineage c.persistent e.1 e.2
  if own.any fun f => keepsObject lineage c f.name then .error (.fault .missingAttribute)
  let fields := own.foldl (fun fs f => putField f fs) (inheritedFields bases)
  let composed := { c with
    fields := some fields, attributes := settle lineage own c.attributes }
  match constructorFault? fields with
  | none => .ok ({ composed with constructor := some fields }, none)
  | some f => .ok (composed, some (.fault f))

/-- What a class keeps under names; a field object that is left is a value of its own kind. -/
def namedValues (c : ModelClass) : List (String × Value) :=
  c.attributes.map fun e =>
    match e.2 with
    | .value v => (e.1, v)
    | .object _ _ => (e.1, .foreign "Field")

def accepts (fields : List Field) (arguments : Arguments) : Bool :=
  (arguments.all fun a => fields.any fun f => f.name == a.1) &&
    fields.all fun f => !f.default.isRequired || (getPair? f.name arguments).isSome

def instantiate (fields : List Field) (arguments : Arguments) :
    Result (List (String × Value)) :=
  if accepts fields arguments then
    .ok (fields.filterMap fun f =>
      ((getPair? f.name arguments).or f.default.make?).map fun v => (f.name, v))
  else .error (.fault .wrongType)

end ModelClass

end RelMap
