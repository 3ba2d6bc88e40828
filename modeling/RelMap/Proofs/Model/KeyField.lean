import RelMap.Proofs.Model.Composition
import RelMap.Proofs.Settings.Checked

/-!
# Key fields

The field object of a primary key is that of a mapped column with some options set beforehand.  What
is given of the options wins over these, and over what is left out, each option by its name
(`ColumnOptions.exists_ofArguments`), and a default that is given wins over the absent value.  A
factory does not: the absent value is handed over beside it, and a field object cannot have both, so
a key field with a factory is never made, though the same column is made field by field
(`keyField_exact`).

What becomes of a field object is said by `ModelClass.HasField`: the class that has it in its body
has a field with its default and its mapping, and instances get what is given for the field, or else
what the default makes.
-/

namespace RelMap

/-! ## Options by their names -/

namespace ColumnOptions

/-- The options as the arguments that set each of them. -/
def arguments (o : ColumnOptions) : Arguments :=
  [("type", o.type), ("name", o.name), ("length", o.length), ("nullable", o.nullable),
   ("unique", o.unique), ("primary_key", o.isKey)]

def names : List String := ["type", "name", "length", "nullable", "unique", "primary_key"]

/-- Setting an option sets the argument of that name. -/
theorem exists_set (o : ColumnOptions) {name : String} (h : name ∈ names) (v : Value) :
    ∃ o', o.set name v = .ok o' ∧ o'.arguments = o.arguments.set name v := by
  simp only [names, List.mem_cons, List.not_mem_nil, or_false] at h
  rcases h with rfl | rfl | rfl | rfl | rfl | rfl <;> exact ⟨_, rfl, rfl⟩

/-- Setting several options one after the other replaces the arguments of their names. -/
theorem exists_foldlM_set (o : ColumnOptions) {given : Arguments}
    (h : ∀ name ∈ given.names, name ∈ names) :
    ∃ o', given.foldlM (fun o e => o.set e.1 e.2) o = .ok o' ∧
      o'.arguments = o.arguments.update given := by
  induction given generalizing o with
  | nil => exact ⟨o, rfl, rfl⟩
  | cons e given ih =>
    obtain ⟨he, hgiven⟩ := List.forall_mem_cons.mp h
    obtain ⟨o₁, hset, harguments⟩ := o.exists_set he e.2
    obtain ⟨o₂, hfold, hupdate⟩ := ih o₁ hgiven
    refine ⟨o₂, ?_, ?_⟩
    · rw [List.foldlM_cons, hset]
      exact hfold
    · rw [hupdate, harguments]
      rfl

/-- The options of a primary key of which nothing is told. -/
def ofKey : ColumnOptions where
  type := .sqlType .integer
  nullable := .bool false
  unique := .bool true
  isKey := .bool true

/-- The options are those of a primary key, but for what is given of them. -/
def IsKeyWith (o : ColumnOptions) (given : Arguments) : Prop :=
  (∀ name v, (name, v) ∈ given → o.arguments.get? name = some v) ∧
    ∀ name ∉ given.names, o.arguments.get? name = ofKey.arguments.get? name

/-- **Options that are given win** over those of a primary key. -/
theorem exists_ofArguments {given : Arguments} (hnames : ∀ name ∈ given.names, name ∈ names)
    (hdistinct : given.names.Nodup) :
    ∃ o, ofArguments (keyArguments ++ given) = .ok o ∧ o.IsKeyWith given := by
  obtain ⟨o, hfold, hupdate⟩ := exists_foldlM_set ofKey hnames
  have hget : ∀ name, o.arguments.get? name =
      (given.get? name).or (ofKey.arguments.get? name) := by
    intro name
    rw [hupdate, Arguments.get?_update _ hdistinct]
  refine ⟨o, ?_, ?_, ?_⟩
  · rw [ofArguments, List.foldlM_append]
    exact hfold
  · intro name v hv
    rw [hget, (Arguments.get?_eq_some_iff hdistinct).mpr hv, Option.some_or]
  · intro name hname
    rw [hget, Arguments.get?_eq_none.mpr hname, Option.none_or]

end ColumnOptions

/-! ## What becomes of a field object -/

/-- The class has a field with the default and the mapping, and its instances have under the name
of the field what is given for it, or else what the default makes. -/
structure ModelClass.HasField (k : ModelClass) (name : String) (d : FieldDefault) (m : Mapping) :
    Prop where
  declared : ∃ fields, k.fields = some fields ∧
    ∃ f ∈ fields, f.name = name ∧ f.default = d ∧ f.mapping = m
  instances : ∀ fields arguments attributes, k.constructor = some fields →
    ModelClass.instantiate fields arguments = .ok attributes →
      getPair? name attributes = (getPair? name arguments).or d.make?

namespace ModelClass

variable {bases : List ModelClass} {k : ModelClass} {fields : List Field} {f : Field}

/-- What is put under the name of each field is found there. -/
theorem getPair?_filterMap (hnodup : (fields.map Field.name).Nodup) (hf : f ∈ fields)
    (value : Field → Option Value) :
    getPair? f.name (fields.filterMap fun g => (value g).map fun v => (g.name, v)) = value f := by
  have hput : ∀ p ∈ fields.filterMap (fun g => (value g).map fun v => (g.name, v)),
      p.1 = f.name → value f = some p.2 := by
    intro p hp hname
    obtain ⟨g, hg, hp⟩ := List.mem_filterMap.mp hp
    obtain ⟨v, hv, rfl⟩ := Option.map_eq_some_iff.mp hp
    rw [← List.inj_on_of_nodup_map hnodup hg hf hname]
    exact hv
  cases hvalue : value f with
  | none =>
    refine getPair?_eq_none fun p hp hname => ?_
    rw [hput p hp hname] at hvalue
    cases hvalue
  | some w =>
    refine getPair?_of_all ⟨(f.name, w), ?_, rfl⟩ fun p hp hname => ?_
    · refine List.mem_filterMap.mpr ⟨f, hf, ?_⟩
      rw [hvalue]
      rfl
    · rw [hput p hp hname] at hvalue
      exact Option.some.inj hvalue

/-- An instance has for each field what is given for it, or else what its default makes. -/
theorem getPair?_instantiate (hnodup : (fields.map Field.name).Nodup) (hf : f ∈ fields)
    {arguments : Arguments} {attributes : List (String × Value)}
    (h : instantiate fields arguments = .ok attributes) :
    getPair? f.name attributes = (getPair? f.name arguments).or f.default.make? := by
  unfold instantiate at h
  split at h
  · cases h
    exact getPair?_filterMap hnodup hf fun g => (getPair? g.name arguments).or g.default.make?
  · cases h

/-- **What becomes of a field object** in the body of a class: a field as it says, for which an
instance takes what the default makes unless something is given. -/
theorem hasField_of_object {id : ModelId} {ancestors : List ModelId} {persistent : Bool}
    {body : List FieldSpec} {e : Option Error} {name : String} {d : FieldDefault} {m : Mapping}
    (hobject : bodyAttribute? body name = some (.object d m))
    (h : compose bases (ofSpec id ancestors persistent body) = .ok (k, e)) :
    k.HasField name d m := by
  obtain ⟨own, made, hown, hconstructor, rfl⟩ := exists_own_of_compose h
  have hnames := names_own hown
  have hnodup : (own.map Field.name).Nodup :=
    hnames ▸ nodup_hints_ofSpec id ancestors persistent body
  have hname : name ∈ own.map Field.name := by
    rw [hnames, names_hints_ofSpec, List.mem_eraseDups]
    exact mem_names_of_bodyAttribute? hobject
  obtain ⟨f, hf, rfl⟩ := List.mem_map.mp hname
  obtain ⟨hint, -, hhint⟩ := Result.exists_mem_of_mapM_eq_ok hown hf
  rw [name_ownField hhint, ← getPair?_attributes_ofSpec id ancestors persistent] at hobject
  obtain ⟨name, type⟩ := hint
  cases ownField_of_object hhint hobject
  have hmem : ⟨name, type, d, m⟩ ∈ own.foldl (fun fs g => putField g fs) (inheritedFields bases) :=
    mem_foldl_putField hnodup (.inl hf)
  refine ⟨⟨_, rfl, _, hmem, rfl, rfl, rfl⟩, fun fields arguments attributes hmakes hmade => ?_⟩
  rcases hconstructor with rfl | rfl
  · cases hmakes
    exact getPair?_instantiate (nodup_foldl_putField (nodup_inheritedFields bases) own) hmem hmade
  · cases hmakes

end ModelClass

/-! ## The field objects of keys -/

/-- The field object is made, with the default and the options; a class that has it in its body has
the field. -/
structure MakesField (made : Result FieldSource) (d : FieldDefault) (o : ColumnOptions) : Prop where
  made : made = .ok (.object d (.options o))
  declared : ∀ {bases : List ModelClass} {id : ModelId} {ancestors : List ModelId}
    {persistent : Bool} {body : List FieldSpec} {k : ModelClass} {e : Option Error} {name : String},
    bodyAttribute? body name = some (.object d (.options o)) →
      ModelClass.compose bases (.ofSpec id ancestors persistent body) = .ok (k, e) →
        k.HasField name d (.options o)

theorem makesField_of_eq {made : Result FieldSource} {d : FieldDefault} {o : ColumnOptions}
    (h : made = .ok (.object d (.options o))) : MakesField made d o :=
  ⟨h, ModelClass.hasField_of_object⟩

/-- A mapped field is made of options that are known, unless a default and a factory are given. -/
theorem mappedField_of_options {given : Arguments} {o : ColumnOptions}
    (h : ColumnOptions.ofArguments given = .ok o) (default : Option Value)
    (factory : Option Factory) :
    mappedField given default factory = fieldObject default factory (.options o) := by
  rw [mappedField, h]
  rfl

/-- **Field objects of keys.**  Whatever options are given for a primary key, there are options that
have each of them as given and are those of a primary key otherwise.  The field object of the key is
made with these options and the default that is given, or else with the absent value for a default;
that is then the key of a new instance for which none is given.  With a factory, however, no field
object is made: the value is found wrong, though the field object of a mapped column with the same
options is made with it, and then the key of a new instance is what the factory makes. -/
theorem keyField_exact {overrides : Arguments}
    (hnames : ∀ name ∈ overrides.names, name ∈ ColumnOptions.names)
    (hdistinct : overrides.names.Nodup) :
    ∃ o : ColumnOptions, o.IsKeyWith overrides ∧
      (∀ default, MakesField (keyField overrides default none) (.value (default.getD .null)) o) ∧
      (∀ default factory, keyField overrides default (some factory) =
        .error (.fault .wrongValue)) ∧
      ∀ factory, MakesField (mappedField (keyArguments ++ overrides) none (some factory))
        (.factory factory) o := by
  obtain ⟨o, hoptions, hkey⟩ := ColumnOptions.exists_ofArguments hnames hdistinct
  have hmapped := mappedField_of_options hoptions
  refine ⟨o, hkey, fun default => makesField_of_eq ?_, fun default factory => ?_,
    fun factory => makesField_of_eq ?_⟩
  · exact hmapped _ none
  · exact hmapped _ (some factory)
  · exact hmapped none (some factory)

/-- The options of a key of text in a column of another name. -/
def uuidOptions : ColumnOptions :=
  { ColumnOptions.ofKey with type := .text "varchar(36)", name := .text "uuid" }

/-- A token has no key until it is given one. -/
theorem keyField_exact_uuid :
    keyField [("type", .text "varchar(36)"), ("name", .text "uuid")] none none =
        .ok (.object (.value .null) (.options uuidOptions)) ∧
      ∃ k e, ModelClass.compose [] (.ofSpec ⟨"Token", 0⟩ [] true
          [⟨"id", .text "str", .object (.value .null) (.options uuidOptions)⟩]) = .ok (k, e) ∧
        k.HasField "id" (.value .null) (.options uuidOptions) := by
  have hnames : ∀ name ∈ Arguments.names
      [("type", .text "varchar(36)"), ("name", .text "uuid")], name ∈ ColumnOptions.names := by
    decide
  obtain ⟨o, -, hmade, -, -⟩ := keyField_exact hnames (by decide)
  have hmade := hmade none
  cases hmade.made
  obtain ⟨⟨k, e⟩, hk⟩ := Result.exists_eq_ok (x := ModelClass.compose [] (.ofSpec ⟨"Token", 0⟩ []
    true [⟨"id", .text "str", .object (.value .null) (.options uuidOptions)⟩])) (by decide +kernel)
  exact ⟨hmade.made, k, e, hk, hmade.declared rfl hk⟩

/-- Not every field object of a key is made: one with a factory for its default is not. -/
theorem keyField_not_always_made :
    ¬ ∀ (overrides : Arguments) (default : Option Value) (factory : Option Factory),
      (∀ name ∈ overrides.names, name ∈ ColumnOptions.names) → overrides.names.Nodup →
      (default = none ∨ factory = none) →
      ∃ source, keyField overrides default factory = .ok source := by
  intro hall
  obtain ⟨source, hsource⟩ := hall [("type", .text "TEXT")] none (some .emptyText) (by decide)
    (by decide) (.inl rfl)
  cases hsource

end RelMap
