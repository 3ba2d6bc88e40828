import Mathlib.Data.List.Forall2
import RelMap.Proofs.Model.Composition
import RelMap.Proofs.Model.Declared
import RelMap.Proofs.Registry.History

/-!
# Mapped models

Which columns a model has once it is mapped: one for each field that is not opted out, in the order
of the fields.  Which fields these are depends on whether the class is composed before: mapping
composes a class only if it has no fields, and a class that is derived from a record class has those
of its base (`Catalog.columns_of_mapNew`).

Where classes are made record classes before others are derived from them (`Catalog.Grown`), the
fields of the nearest record class are all that there are to inherit.
-/

namespace RelMap

/-! ## The columns of fields -/

namespace Field

def isMapped (f : Field) : Bool :=
  match f.mapping with
  | .off => false
  | _ => true

/-- The column is what the options of the field ask for. -/
def MapsTo (hint : Field → FieldType) (f : Field) (c : Column) : Prop :=
  ∃ o, f.mapping = .options o ∧ o.column (.text f.name) (hint f) = .ok c

end Field

namespace Registry

variable {r r' : Registry} {m : ModelId}

theorem columns_of_collectColumn {o : ColumnOptions} {field : Value} {hint : FieldType} {c : Column}
    (h : r.collectColumn m o field hint = .ok (r', c)) :
    o.column field hint = .ok c ∧ (r'.slot m).columns = (r.slot m).columns ++ [c] := by
  obtain ⟨c', hc', h⟩ := Result.bind_eq_ok.mp h
  obtain ⟨r'', hadd, h⟩ := Result.bind_eq_ok.mp h
  cases h
  refine ⟨hc', ?_⟩
  unfold addColumn at hadd
  dsimp only at hadd
  split at hadd
  · cases hadd
  · cases hadd
    rw [slot_put_self]

/-- Each field that is not opted out adds its column behind those that are there. -/
theorem columns_of_collectFields {hint : Field → FieldType} {fields : List Field}
    (h : r.collectFields m hint fields = (r', none)) :
    ∃ cs, List.Forall₂ (Field.MapsTo hint) (fields.filter Field.isMapped) cs ∧
      (r'.slot m).columns = (r.slot m).columns ++ cs := by
  induction fields generalizing r with
  | nil =>
    cases h
    exact ⟨[], .nil, (List.append_nil _).symm⟩
  | cons f rest ih =>
    rw [collectFields] at h
    split at h
    · next r₁ hf =>
      obtain ⟨cs, hcs, hcolumns⟩ := ih h
      unfold collectField at hf
      split at hf
      · next hoff =>
        cases hf
        refine ⟨cs, ?_, hcolumns⟩
        rw [List.filter_cons, Field.isMapped, hoff]
        exact hcs
      · cases hf
      · next o ho =>
        obtain ⟨⟨r₂, c⟩, hcollect, rfl⟩ := Result.map_eq_ok.mp hf
        obtain ⟨hc, hadded⟩ := columns_of_collectColumn hcollect
        refine ⟨c :: cs, ?_, ?_⟩
        · rw [List.filter_cons, Field.isMapped, ho]
          exact .cons ⟨o, ho, hc⟩ hcs
        · rw [hcolumns, hadded, List.append_assoc]
          rfl
    · cases h

theorem slot_of_collectEntity {table : Value} {byInstance : Bool} {events : List Event}
    (h : r.collectEntity m table byInstance = .ok (r', events)) :
    (r'.slot m).registered = true ∧ (r'.slot m).columns = (r.slot m).columns := by
  unfold collectEntity at h
  split at h
  · cases h
  · obtain ⟨r'', hset, h⟩ := Result.bind_eq_ok.mp h
    obtain ⟨name, -, hset⟩ := Result.bind_eq_ok.mp hset
    cases hset
    have hregister : _ = r' := congrArg Prod.fst (Except.ok.inj h)
    rw [← hregister]
    unfold register
    rw [slot_put_self]
    dsimp only
    split
    · next hregistered =>
      rw [slot_put_self]
      exact ⟨hregistered, rfl⟩
    · rw [slot_put_self]
      exact ⟨rfl, rfl⟩

end Registry

/-! ## Classes in a catalog -/

namespace Catalog

variable {c c' : Catalog} {k b : ModelClass} {m id : ModelId}

theorem id_of_class? (h : c.class? m = some k) : k.id = m := by
  have hk := List.find?_some h
  exact of_decide_eq_true hk

/-- The names of classes that are looked up by name. -/
theorem ids_filterMap_class? {ids : List ModelId} (h : ∀ a ∈ ids, c.class? a ≠ none) :
    (ids.filterMap c.class?).map ModelClass.id = ids := by
  induction ids with
  | nil => rfl
  | cons a ids ih =>
    obtain ⟨ha, hids⟩ := List.forall_mem_cons.mp h
    obtain ⟨b, hb⟩ := Option.ne_none_iff_exists'.mp ha
    rw [List.filterMap_cons_some hb, List.map_cons, id_of_class? hb, ih hids]

theorem class?_withRegistry (scope : Scope) (r : Registry) (m : ModelId) :
    (c.withRegistry scope r).class? m = c.class? m := by
  cases scope <;> rfl

/-- Replacing a class among others. -/
theorem find?_replaced (k : ModelClass) (m : ModelId) (classes : List ModelClass) :
    (classes.map fun j => if j.id = k.id then k else j).find? (fun j => j.id = m) =
      if m = k.id then (if classes.any fun j => j.id = k.id then some k else none)
      else classes.find? fun j => j.id = m := by
  induction classes with
  | nil => simp
  | cons j rest ih =>
    rw [List.map_cons, List.find?_cons, List.find?_cons, List.any_cons, ih]
    by_cases hj : j.id = k.id
    · by_cases hm : m = k.id
      · simp [hj, hm]
      · simp [hj, hm, Ne.symm hm]
    · by_cases hm : m = k.id
      · simp [hj, hm]
      · by_cases hjm : j.id = m
        · simp [hm, hjm]
        · simp [hj, hm, hjm]

theorem class?_putClass (c : Catalog) (k : ModelClass) (m : ModelId) :
    (c.putClass k).class? m = if m = k.id then some k else c.class? m := by
  unfold putClass class?
  split
  · next h =>
    show (c.classes.map _).find? _ = _
    rw [find?_replaced, h]
    rfl
  · next h =>
    show (c.classes ++ [k]).find? _ = _
    rw [List.find?_append]
    by_cases hm : m = k.id
    · have hnone : (c.classes.find? fun j => j.id = m) = none := by
        refine List.find?_eq_none.mpr fun j hj heq => h ?_
        exact List.any_eq_true.mpr ⟨j, hj, hm ▸ heq⟩
      rw [hnone, if_pos hm, Option.none_or, List.find?_cons, decide_eq_true hm.symm]
    · rw [if_neg hm, List.find?_cons, decide_eq_false (Ne.symm hm), List.find?_nil, Option.or_none]

theorem class?_putClass_self (c : Catalog) (k : ModelClass) :
    (c.putClass k).class? k.id = some k := by
  rw [class?_putClass, if_pos rfl]

theorem class?_putClass_of_ne (h : m ≠ k.id) : (c.putClass k).class? m = c.class? m := by
  rw [class?_putClass, if_neg h]

theorem class?_of_mem_lineage (h : b ∈ c.lineage m) : c.class? b.id = some b := by
  unfold lineage at h
  split at h
  · next k hk =>
    rcases List.mem_cons.mp h with rfl | h
    · rw [id_of_class? hk, hk]
    · obtain ⟨a, -, ha⟩ := List.mem_filterMap.mp h
      rw [id_of_class? ha, ha]
  · cases h

theorem lineage_of_class? (h : c.class? m = some k) :
    c.lineage m = k :: k.ancestors.filterMap c.class? := by
  unfold lineage
  rw [h]

theorem lineage_of_unknown (h : c.class? m = none) : c.lineage m = [] := by
  unfold lineage
  rw [h]

theorem compose_of_unknown (h : c.class? m = none) : c.compose m = (c, none) := by
  unfold compose
  rw [lineage_of_unknown h]

theorem class?_of_lineage {bases : List ModelClass} (h : c.lineage m = k :: bases) :
    c.class? m = some k := by
  unfold lineage at h
  split at h
  · next k' hk' =>
    rw [hk', (List.cons.inj h).1]
  · cases h

/-- Hints do not depend on the registry that a class is in. -/
theorem mappingHints_of_home {bases : List ModelClass} {home : Option Scope}
    (h : c.lineage m = k :: bases) (h' : c'.lineage m = { k with home := home } :: bases) :
    c'.mappingHints m = c.mappingHints m := by
  have hevaluated : c'.evaluatedHints m = c.evaluatedHints m := by
    unfold evaluatedHints
    rw [h, h', List.reverse_cons, List.reverse_cons, List.foldlM_append, List.foldlM_append]
    rfl
  unfold mappingHints
  rw [hevaluated, class?_of_lineage h, class?_of_lineage h']
  rfl

/-- A class whose base classes are others is put in front of them. -/
theorem lineage_putClass_self (h : ∀ a ∈ k.ancestors, a ≠ k.id) :
    (c.putClass k).lineage k.id = k :: k.ancestors.filterMap c.class? := by
  rw [lineage_of_class? (class?_putClass_self c k)]
  congr 1
  exact List.filterMap_congr fun a ha => class?_putClass_of_ne (h a ha)

/-- The base classes of a model that is declared. -/
def basesOf (c : Catalog) (base : Option ModelId) : List ModelClass := (base.map c.lineage).getD []

theorem class?_of_mem_basesOf {base : Option ModelId} (h : b ∈ c.basesOf base) :
    c.class? b.id = some b := by
  cases base with
  | none => cases h
  | some m => exact class?_of_mem_lineage h

theorem registry_withRegistry (scope : Scope) (r : Registry) :
    (c.withRegistry scope r).registry scope = r := by
  cases scope <;> rfl

theorem registry_putClass (c : Catalog) (k : ModelClass) (scope : Scope) :
    (c.putClass k).registry scope = c.registry scope := by
  unfold putClass
  split <;> cases scope <;> rfl

/-! ## Mapping a class -/

/-- Before a class is mapped it is composed, unless it has fields, be they those of a base class. -/
def Prepares (c : Catalog) (m : ModelId) (d : Catalog) : Prop :=
  (c.fields? m).isSome = true ∧ d = c ∨ c.fields? m = none ∧ c.compose m = (d, none)

theorem registry_compose (c : Catalog) (m : ModelId) (scope : Scope) :
    (c.compose m).1.registry scope = c.registry scope := by
  unfold compose
  split
  · rfl
  · split
    · exact registry_putClass _ _ scope
    · rfl

theorem Prepares.registry {d : Catalog} (h : c.Prepares m d) (scope : Scope) :
    d.registry scope = c.registry scope := by
  rcases h with ⟨-, rfl⟩ | ⟨-, h⟩
  · rfl
  · have hsame := registry_compose c m scope
    rw [h] at hsame
    exact hsame

/-- **The columns of a model that is mapped** are those that were declared of it before, and then
one for each of its fields that is not opted out. -/
theorem columns_of_mapModel {scope : Scope} {table : Value} {events : List Event}
    (h : c.mapModel scope m table = (c', events, none)) :
    ∃ d hints cs, c.Prepares m d ∧ d.mappingHints m = .ok hints ∧
      List.Forall₂ (Field.MapsTo hints) (((d.fields? m).getD []).filter Field.isMapped) cs ∧
      ∀ k, d.class? m = some k →
        c'.lineage m = { k with home := some scope } :: k.ancestors.filterMap c'.class? ∧
        (∀ a, a ≠ m → c'.class? a = d.class? a) ∧
        ∃ e, c'.entity m = .ok e ∧ e.columns = ((c.registry scope).slot m).columns ++ cs := by
  unfold mapModel at h
  have hprepares : ∀ d, (if (c.fields? m).isSome then (c, none) else c.compose m) = (d, none) →
      c.Prepares m d := by
    intro d hd
    split at hd
    · next hfields =>
      cases hd
      exact Or.inl ⟨hfields, rfl⟩
    · next hfields => exact Or.inr ⟨Option.not_isSome_iff_eq_none.mp hfields, hd⟩
  revert h hprepares
  generalize (if (c.fields? m).isSome then (c, none) else c.compose m) = prepared
  obtain ⟨d, failure⟩ := prepared
  intro h hprepares
  dsimp only at h
  split at h
  · cases h
  · cases h
  · next hints hhints =>
    have hprepared := hprepares d rfl
    rcases hcollect : (d.registry scope).collectFields m hints ((d.fields? m).getD []) with ⟨r, f⟩
    rw [hcollect] at h
    dsimp only at h
    split at h
    · cases h
    · obtain ⟨cs, hcs, hcolumns⟩ := Registry.columns_of_collectFields hcollect
      split at h
      · cases h
      · next r' events' hentity =>
        obtain ⟨hregistered, hslot⟩ := Registry.slot_of_collectEntity hentity
        refine ⟨d, hints, cs, hprepared, hhints, hcs, fun k hk => ?_⟩
        rw [class?_withRegistry, class?_withRegistry, hk] at h
        cases h
        obtain rfl := id_of_class? hk
        let mapped : ModelClass := { k with home := some scope }
        have hclass := class?_putClass_self ((d.withRegistry scope r).withRegistry scope r') mapped
        have hlineage := lineage_of_class? hclass
        refine ⟨hlineage, fun a ha => ?_,
          ⟨k.id, (r'.slot k.id).table, (r'.slot k.id).columns⟩, ?_, ?_⟩
        · rw [class?_putClass_of_ne (k := mapped) ha, class?_withRegistry, class?_withRegistry]
        · have hscope : scopeOf (((d.withRegistry scope r).withRegistry scope r').putClass mapped)
              k.id = scope := by
            rw [scopeOf, hlineage]
            rfl
          dsimp only
          rw [entity, hscope, registry_putClass, registry_withRegistry, Registry.entity_eq,
            if_pos hregistered]
        · rw [hslot, hcolumns, hprepared.registry]

/-- However mapping ends, the classes are those of the catalog, where the model may be composed and
may have moved into the registry. -/
theorem classes_of_mapModel (c : Catalog) (scope : Scope) (m : ModelId) (table : Value) :
    ∃ d, (d = c ∨ d = (c.compose m).1) ∧ ((c.mapModel scope m table).1.class? = d.class? ∨
      ∃ k, d.class? m = some k ∧ (c.mapModel scope m table).1.class? =
        (d.putClass { k with home := some scope }).class?) := by
  have hprepared : (if (c.fields? m).isSome then (c, none) else c.compose m).1 = c ∨
      (if (c.fields? m).isSome then (c, none) else c.compose m).1 = (c.compose m).1 := by
    split
    · exact Or.inl rfl
    · exact Or.inr rfl
  unfold mapModel
  revert hprepared
  generalize (if (c.fields? m).isSome then (c, none) else c.compose m) = prepared
  obtain ⟨d, failure⟩ := prepared
  intro hd
  refine ⟨d, hd, ?_⟩
  dsimp only
  split
  · exact Or.inl rfl
  · exact Or.inl rfl
  · next hints _ =>
    rcases (d.registry scope).collectFields m hints ((d.fields? m).getD []) with ⟨r, f⟩
    dsimp only
    split
    · exact Or.inl (funext (class?_withRegistry scope r))
    · split
      · exact Or.inl (funext (class?_withRegistry scope r))
      · next r' events _ =>
        dsimp only
        cases hk : d.class? m with
        | none =>
          left
          funext n
          rw [class?_withRegistry, class?_withRegistry, hk, class?_withRegistry,
            class?_withRegistry]
        | some k =>
          right
          refine ⟨k, rfl, ?_⟩
          funext n
          rw [class?_withRegistry, class?_withRegistry, hk, class?_putClass, class?_putClass,
            class?_withRegistry, class?_withRegistry]

/-! ## A class and its base classes -/

/-- The class stands in the catalog, behind it its base classes, which are others. -/
structure Stands (bases : List ModelClass) (c : Catalog) (k : ModelClass) : Prop where
  found : c.class? k.id = some k
  ancestors : k.ancestors = bases.map ModelClass.id
  others : ∀ b ∈ bases, b.id ≠ k.id ∧ c.class? b.id = some b

namespace Stands

variable {bases : List ModelClass}

theorem filterMap_class? (h : ∀ b ∈ bases, c.class? b.id = some b) :
    (bases.map ModelClass.id).filterMap c.class? = bases := by
  rw [List.filterMap_map]
  refine (List.filterMap_congr fun b hb => ?_).trans List.filterMap_some
  exact h b hb

theorem lineage (h : Stands bases c k) : c.lineage k.id = k :: bases := by
  rw [lineage_of_class? h.found, h.ancestors, filterMap_class? fun b hb => (h.others b hb).2]

theorem putClass (h : Stands bases c k) {k' : ModelClass} (hid : k'.id = k.id)
    (hancestors : k'.ancestors = k.ancestors) : Stands bases (c.putClass k') k' := by
  refine ⟨class?_putClass_self c k', hancestors.trans h.ancestors, fun b hb => ?_⟩
  obtain ⟨hne, hb⟩ := h.others b hb
  rw [← hid] at hne
  exact ⟨hne, (class?_putClass_of_ne hne).trans hb⟩

/-- Composing a class that stands puts the composed class in its place. -/
theorem compose (h : Stands bases c k) (hhints : (k.hints.map Prod.fst).Nodup) {e : Option Error}
    (hc : c.compose k.id = (c', e)) :
    c' = c ∧ e ≠ none ∨ ∃ k' own, ModelClass.Composed bases k k' own ∧ Stands bases c' k' ∧
      c' = c.putClass k' := by
  unfold Catalog.compose at hc
  rw [h.lineage] at hc
  dsimp only at hc
  split at hc
  · next k' e' hk' =>
    cases hc
    obtain ⟨own, hcomposed⟩ := ModelClass.compose_eq_ok hhints hk'
    exact Or.inr ⟨k', own, hcomposed, h.putClass hcomposed.id hcomposed.ancestors, rfl⟩
  · cases hc
    exact Or.inl ⟨rfl, nofun⟩

end Stands

/-- The class that a declaration makes. -/
def newClass (c : Catalog) (id : ModelId) (base : Option ModelId) (persistent : Bool)
    (body : List FieldSpec) : ModelClass :=
  .ofSpec id ((c.basesOf base).map ModelClass.id)
    (persistent || (c.basesOf base).any ModelClass.persistent) body

theorem stands_declare (hnew : c.class? id = none) (base : Option ModelId) (persistent : Bool)
    (body : List FieldSpec) :
    Stands (c.basesOf base) (c.declare id base persistent body)
      (c.newClass id base persistent body) := by
  refine ⟨class?_putClass_self c (c.newClass id base persistent body), rfl, fun b hb => ?_⟩
  have hb := class?_of_mem_basesOf hb
  have hne : b.id ≠ (c.newClass id base persistent body).id := by
    intro heq
    rw [heq] at hb
    cases hnew.symm.trans hb
  exact ⟨hne, (class?_putClass_of_ne hne).trans hb⟩

/-! ## Catalogs that grow class by class -/

/-- What holds of every class in a catalog in which classes are made record classes before others
are derived from them: the nearest fields are all that it has of its bases. -/
structure SoundClass (c : Catalog) (m : ModelId) (k : ModelClass) : Prop where
  hints : (k.hints.map Prod.fst).Nodup
  ancestors : ∀ a ∈ k.ancestors, a ≠ m ∧ c.class? a ≠ none
  fields : ∀ fs, c.fields? m = some fs → ModelClass.inheritedFields (c.lineage m) = fs

def Sound (c : Catalog) : Prop := ∀ m k, c.class? m = some k → c.SoundClass m k

/-- No class is derived from the model. -/
def IsLeaf (c : Catalog) (m : ModelId) : Prop := ∀ n k, c.class? n = some k → m ∉ k.ancestors

namespace Sound

theorem congr (hc : c.Sound) (h : c'.class? = c.class?) : c'.Sound := by
  have hlineage : c'.lineage = c.lineage := by
    funext m
    unfold lineage
    rw [h]
  intro m k hk
  rw [h] at hk
  obtain ⟨hhints, hancestors, hfields⟩ := hc m k hk
  refine ⟨hhints, ?_, ?_⟩
  · rw [h]
    exact hancestors
  · unfold fields?
    rw [hlineage]
    exact hfields

/-- A class from which none is derived may be added or replaced. -/
theorem putClass (hc : c.Sound) (hleaf : c.IsLeaf k.id) (hhints : (k.hints.map Prod.fst).Nodup)
    (hancestors : ∀ a ∈ k.ancestors, a ≠ k.id ∧ c.class? a ≠ none)
    (hfields : ∀ fs, (k :: k.ancestors.filterMap c.class?).findSome? ModelClass.fields = some fs →
      ModelClass.inheritedFields (k :: k.ancestors.filterMap c.class?) = fs) :
    (c.putClass k).Sound := by
  have hkeeps : ∀ {a}, c.class? a ≠ none → (c.putClass k).class? a ≠ none := by
    intro a ha
    rw [class?_putClass]
    split
    · nofun
    · exact ha
  intro m k' hk'
  by_cases hm : m = k.id
  · subst hm
    obtain rfl : k = k' := Option.some.inj ((class?_putClass_self c k).symm.trans hk')
    refine ⟨hhints, fun a ha => ⟨(hancestors a ha).1, hkeeps (hancestors a ha).2⟩, ?_⟩
    unfold fields?
    rw [lineage_putClass_self fun a ha => (hancestors a ha).1]
    exact hfields
  · rw [class?_putClass_of_ne hm] at hk'
    obtain ⟨hhints', hancestors', hfields'⟩ := hc m k' hk'
    have hlineage : (c.putClass k).lineage m = c.lineage m := by
      rw [lineage_of_class? ((class?_putClass_of_ne hm).trans hk'), lineage_of_class? hk']
      congr 1
      refine List.filterMap_congr fun a ha => class?_putClass_of_ne ?_
      rintro rfl
      exact hleaf m k' hk' ha
    refine ⟨hhints', fun a ha => ⟨(hancestors' a ha).1, hkeeps (hancestors' a ha).2⟩, ?_⟩
    unfold fields?
    rw [hlineage]
    exact hfields'

theorem stands (hc : c.Sound) (hk : c.class? m = some k) :
    Stands (k.ancestors.filterMap c.class?) c k := by
  obtain rfl := id_of_class? hk
  have hancestors := (hc k.id k hk).ancestors
  refine ⟨hk, ?_, fun b hb => ?_⟩
  · exact (ids_filterMap_class? fun a ha => (hancestors a ha).2).symm
  · obtain ⟨a, ha, hb⟩ := List.mem_filterMap.mp hb
    rw [id_of_class? hb]
    exact ⟨(hancestors a ha).1, hb⟩

/-- A class of known base classes that is new to the catalog. -/
theorem declare (hc : c.Sound) (hnew : c.class? id = none) (base : Option ModelId)
    (persistent : Bool) (body : List FieldSpec) : (c.declare id base persistent body).Sound := by
  have hstands := stands_declare hnew base persistent body
  refine putClass (k := c.newClass id base persistent body) hc ?_ ?_ ?_ ?_
  · intro n k hk hmem
    exact ((hc n k hk).ancestors id hmem).2 hnew
  · exact ModelClass.nodup_hints_ofSpec _ _ _ body
  · intro a ha
    obtain ⟨b, hb, rfl⟩ := List.mem_map.mp ha
    refine ⟨(hstands.others b hb).1, ?_⟩
    rw [class?_of_mem_basesOf hb]
    nofun
  · intro fs hfs
    have hbases : (c.newClass id base persistent body).ancestors.filterMap c.class? =
        c.basesOf base := Stands.filterMap_class? fun b hb => class?_of_mem_basesOf hb
    rw [hbases] at hfs ⊢
    rw [ModelClass.inheritedFields_cons]
    cases base with
    | none => cases hfs
    | some m =>
      have hfields : c.fields? m = some fs := hfs
      cases hm : c.class? m with
      | none =>
        rw [fields?, lineage_of_unknown hm] at hfields
        cases hfields
      | some k => exact (hc m k hm).fields fs hfields

/-- A class from which none is derived may be composed. -/
theorem compose (hc : c.Sound) (hleaf : c.IsLeaf m) : (c.compose m).1.Sound := by
  cases hm : c.class? m with
  | none =>
    rw [compose_of_unknown hm]
    exact hc
  | some k =>
    have hstands := hc.stands hm
    obtain rfl := id_of_class? hm
    obtain ⟨hhints, hancestors, -⟩ := hc k.id k hm
    rcases hrun : c.compose k.id with ⟨c', e⟩
    rcases hstands.compose hhints hrun with ⟨rfl, -⟩ | ⟨k', own, hcomposed, -, rfl⟩
    · exact hc
    · have hown : (own.map Field.name).Nodup := hcomposed.names ▸ hhints
      have hinherited := ModelClass.nodup_inheritedFields (k.ancestors.filterMap c.class?)
      refine hc.putClass (hcomposed.id ▸ hleaf) (hcomposed.hints ▸ hhints) ?_ ?_
      · rw [hcomposed.ancestors, hcomposed.id]
        exact hancestors
      · intro fs hfs
        rw [hcomposed.ancestors] at hfs ⊢
        rw [List.findSome?_cons, hcomposed.fields] at hfs
        cases hfs
        rw [ModelClass.inheritedFields_cons, hcomposed.fields, Option.getD_some,
          foldl_putField hinherited (nodup_overlay hinherited hown), overlay_overlay hinherited]

/-- A class may be moved into a registry. -/
theorem putHome (hc : c.Sound) (hleaf : c.IsLeaf m) (hk : c.class? m = some k) (scope : Scope) :
    (c.putClass { k with home := some scope }).Sound := by
  obtain rfl := id_of_class? hk
  obtain ⟨hhints, hancestors, hfields⟩ := hc k.id k hk
  refine hc.putClass hleaf hhints hancestors fun fs hfs => ?_
  have hinherited := hfields fs (by rw [fields?, lineage_of_class? hk]; exact hfs)
  rw [lineage_of_class? hk, ModelClass.inheritedFields_cons] at hinherited
  rw [ModelClass.inheritedFields_cons]
  exact hinherited

/-- Composing derives no class from another. -/
theorem isLeaf_compose (hc : c.Sound) (hleaf : c.IsLeaf m) : (c.compose m).1.IsLeaf m := by
  cases hm : c.class? m with
  | none =>
    rw [compose_of_unknown hm]
    exact hleaf
  | some k =>
    have hstands := hc.stands hm
    obtain rfl := id_of_class? hm
    rcases hrun : c.compose k.id with ⟨c', e⟩
    rcases hstands.compose (hc k.id k hm).hints hrun with ⟨rfl, -⟩ | ⟨k', own, hcomposed, -, rfl⟩
    · exact hleaf
    · intro n j hj
      rw [class?_putClass] at hj
      split at hj
      · cases hj
        rw [hcomposed.ancestors]
        exact hleaf k.id k hm
      · exact hleaf n j hj

/-- A class from which none is derived may be mapped, however that ends. -/
theorem mapModel (hc : c.Sound) (hleaf : c.IsLeaf m) (scope : Scope) (table : Value) :
    (c.mapModel scope m table).1.Sound := by
  obtain ⟨d, hd, hclasses⟩ := classes_of_mapModel c scope m table
  obtain ⟨hsound, hleaf'⟩ : d.Sound ∧ d.IsLeaf m := by
    rcases hd with rfl | rfl
    · exact ⟨hc, hleaf⟩
    · exact ⟨hc.compose hleaf, hc.isLeaf_compose hleaf⟩
  rcases hclasses with hsame | ⟨k, hk, hput⟩
  · exact hsound.congr hsame
  · exact (hsound.putHome hleaf' hk scope).congr hput

end Sound

/-- The catalogs that come of declarations, where a class is made a record class or mapped only
before others are derived from it. -/
inductive Grown : Catalog → Prop
  | empty : Grown .empty
  | declare {c : Catalog} {id : ModelId} (base : Option ModelId) (persistent : Bool)
      (body : List FieldSpec) : Grown c → c.class? id = none →
      Grown (c.declare id base persistent body)
  | compose {c : Catalog} {m : ModelId} : Grown c → c.IsLeaf m → Grown (c.compose m).1
  | mapModel {c : Catalog} {m : ModelId} (scope : Scope) (table : Value) : Grown c → c.IsLeaf m →
      Grown (c.mapModel scope m table).1

theorem Grown.sound (h : c.Grown) : c.Sound := by
  induction h with
  | empty => exact fun m k hk => nomatch hk
  | declare base persistent body _ hnew ih => exact ih.declare hnew base persistent body
  | compose _ hleaf ih => exact ih.compose hleaf
  | mapModel scope table _ hleaf ih => exact ih.mapModel hleaf scope table

/-! ## A class that is declared and mapped -/

/-- Declares a class, makes it a record class first if that is asked for, and maps it. -/
def mapNew (c : Catalog) (id : ModelId) (base : Option ModelId) (persistent : Bool)
    (body : List FieldSpec) (record : Bool) (scope : Scope) (table : Value) :
    Catalog × Option Error :=
  let declared := c.declare id base persistent body
  match if record then declared.compose id else (declared, none) with
  | (d, some e) => (d, some e)
  | (d, none) =>
    let (mapped, _, e) := d.mapModel scope id table
    (mapped, e)

section New

variable {base : Option ModelId} {persistent record : Bool} {body : List FieldSpec} {d d' : Catalog}

theorem registry_of_new {scope : Scope} {e : Option Error}
    (hd : (if record then (c.declare id base persistent body).compose id
      else (c.declare id base persistent body, none)) = (d, e)) :
    d.registry scope = c.registry scope := by
  have hdeclared : (c.declare id base persistent body).registry scope = c.registry scope :=
    registry_putClass c _ scope
  split at hd
  · have hcomposed := registry_compose (c.declare id base persistent body) id scope
    rw [hd] at hcomposed
    exact hcomposed.trans hdeclared
  · cases hd
    exact hdeclared

/-- When a class that was declared is mapped, it is composed, or it has a record class as its base
and was not made one itself. -/
theorem stands_of_prepares (hnew : c.class? id = none)
    (hd : (if record then (c.declare id base persistent body).compose id
      else (c.declare id base persistent body, none)) = (d, none))
    (hprepares : d.Prepares id d') :
    ∃ k, k.id = id ∧ Stands (c.basesOf base) d' k ∧
      ((record = true ∨ ∀ b ∈ c.basesOf base, b.fields = none) ∧
          (∃ own, ModelClass.Composed (c.basesOf base) (c.newClass id base persistent body) k own) ∨
        record = false ∧ k.fields = none ∧
          ∃ fs, (c.basesOf base).findSome? ModelClass.fields = some fs) := by
  have hstands := stands_declare hnew base persistent body
  have hhints := ModelClass.nodup_hints_ofSpec id ((c.basesOf base).map ModelClass.id)
    (persistent || (c.basesOf base).any ModelClass.persistent) body
  -- composing the class that was declared, sooner or later
  have hcompose : ∀ d, (c.declare id base persistent body).compose id = (d, none) →
      ∃ k own, k.id = id ∧ Stands (c.basesOf base) d k ∧
        ModelClass.Composed (c.basesOf base) (c.newClass id base persistent body) k own := by
    intro d hd
    rcases hstands.compose hhints hd with ⟨-, hnone⟩ | ⟨k, own, hcomposed, hk, -⟩
    · exact absurd rfl hnone
    · exact ⟨k, own, hcomposed.id, hk, hcomposed⟩
  cases record with
  | true =>
    obtain ⟨k, own, hid, hk, hcomposed⟩ := hcompose d hd
    rcases hprepares with ⟨-, rfl⟩ | ⟨hnone, -⟩
    · exact ⟨k, hid, hk, Or.inl ⟨Or.inl rfl, own, hcomposed⟩⟩
    · rw [← hid, fields?, hk.lineage, List.findSome?_cons, hcomposed.fields] at hnone
      cases hnone
  | false =>
    cases hd
    have hlineage : (c.declare id base persistent body).lineage id =
        c.newClass id base persistent body :: c.basesOf base := hstands.lineage
    have hfields : (c.declare id base persistent body).fields? id =
        (c.basesOf base).findSome? ModelClass.fields := by
      rw [fields?, hlineage]
      rfl
    rcases hprepares with ⟨hsome, rfl⟩ | ⟨hnone, hd'⟩
    · rw [hfields] at hsome
      exact ⟨_, rfl, hstands, Or.inr ⟨rfl, rfl, Option.isSome_iff_exists.mp hsome⟩⟩
    · rw [hfields] at hnone
      obtain ⟨k, own, hid, hk, hcomposed⟩ := hcompose d' hd'
      exact ⟨k, hid, hk, Or.inl ⟨Or.inr (List.findSome?_eq_none_iff.mp hnone), own, hcomposed⟩⟩

/-- In a catalog that grows class by class the nearest record class has all inherited fields. -/
theorem Sound.findSome?_basesOf (hc : c.Sound) {fs : List Field}
    (h : (c.basesOf base).findSome? ModelClass.fields = some fs) :
    fs = ModelClass.inheritedFields (c.basesOf base) := by
  cases base with
  | none => cases h
  | some m =>
    cases hm : c.class? m with
    | none =>
      have hbases : c.basesOf (some m) = [] := lineage_of_unknown hm
      rw [hbases] at h
      cases h
    | some k => exact ((hc m k hm).fields fs h).symm

/-- **The columns of a class that is declared and mapped.**  They are the columns of its fields that
are not opted out, in their order.  If the class is made a record class, or has no record class as
its base, its fields are those that it inherits, each replaced by its own field of that name, and
then its other own fields; these are all that it declares or inherits, each once, and a field object
in its body says how its field is mapped.  A class that is derived from a record class and not made
one itself has the fields of its nearest such base, and its own are not mapped. -/
theorem columns_of_mapNew {scope : Scope} {table : Value} (hnew : c.class? id = none)
    (hslot : (c.registry scope).slot? id = none)
    (h : c.mapNew id base persistent body record scope table = (c', none)) :
    ∃ e hint fields, c'.entity id = .ok e ∧ c'.fields? id = some fields ∧
      c'.mappingHints id = .ok hint ∧
      List.Forall₂ (Field.MapsTo hint) (fields.filter Field.isMapped) e.columns ∧
      ((record = true ∨ ∀ b ∈ c.basesOf base, b.fields = none) →
        ∃ own, fields = Field.overlay (ModelClass.inheritedFields (c.basesOf base)) own ∧
          own.map Field.name = (body.map FieldSpec.name).eraseDups ∧
          (∀ f ∈ own, ∀ d m, bodyAttribute? body f.name = some (.object d m) → f.mapping = m) ∧
          (fields.map Field.name).Nodup ∧
          ∀ name, name ∈ fields.map Field.name ↔ name ∈ body.map FieldSpec.name ∨
            ∃ b ∈ c.basesOf base, ∃ fs, b.fields = some fs ∧ name ∈ fs.map Field.name) ∧
      (record = false → (∃ b ∈ c.basesOf base, b.fields ≠ none) →
        (c.basesOf base).findSome? ModelClass.fields = some fields ∧
          (c.Grown → fields = ModelClass.inheritedFields (c.basesOf base))) := by
  unfold mapNew at h
  dsimp only at h
  split at h
  · cases h
  · next d hd =>
    rcases hmap : d.mapModel scope id table with ⟨mapped, events, failure⟩
    rw [hmap] at h
    cases h
    obtain ⟨d', hint, cs, hprepares, hhint, hcs, hmapped⟩ := columns_of_mapModel hmap
    obtain ⟨k, hid, hstands, hk⟩ := stands_of_prepares hnew hd hprepares
    subst hid
    obtain ⟨hlineage, hothers, e, he, hcolumns⟩ := hmapped k hstands.found
    have hbases : k.ancestors.filterMap mapped.class? = c.basesOf base := by
      rw [hstands.ancestors]
      refine Stands.filterMap_class? fun b hb => ?_
      obtain ⟨hne, hb⟩ := hstands.others b hb
      rw [hothers b.id hne, hb]
    rw [hbases] at hlineage
    rw [← mappingHints_of_home hstands.lineage hlineage] at hhint
    have hfields : mapped.fields? k.id = d'.fields? k.id := by
      rw [fields?, fields?, hlineage, hstands.lineage]
      rfl
    have hempty : ((d.registry scope).slot k.id).columns = [] := by
      rw [registry_of_new hd, Registry.slot, hslot]
      rfl
    rw [hempty, List.nil_append] at hcolumns
    rw [← hcolumns] at hcs
    rcases hk with ⟨hgood, own, hcomposed⟩ | ⟨hrecord, hplain, fs, hfs⟩
    · have hsome : d'.fields? k.id =
          some (Field.overlay (ModelClass.inheritedFields (c.basesOf base)) own) := by
        rw [fields?, hstands.lineage, List.findSome?_cons, hcomposed.fields]
      rw [hsome] at hcs hfields
      refine ⟨e, hint, _, he, hfields, hhint, hcs, fun _ => ⟨own, rfl, hcomposed.fields_ofSpec⟩, ?_⟩
      rintro hrecord ⟨b, hb, hbfields⟩
      rcases hgood with htrue | hplain
      · cases hrecord.symm.trans htrue
      · exact absurd (hplain b hb) hbfields
    · have hsome : d'.fields? k.id = some fs := by
        rw [fields?, hstands.lineage, List.findSome?_cons, hplain, hfs]
      rw [hsome] at hcs hfields
      refine ⟨e, hint, fs, he, hfields, hhint, hcs, ?_, fun _ _ => ⟨hfs, fun hgrown =>
        hgrown.sound.findSome?_basesOf hfs⟩⟩
      rintro (htrue | hnone)
      · cases hrecord.symm.trans htrue
      · rw [List.findSome?_eq_none_iff.mpr hnone] at hfs
        cases hfs

end New

/-! ### A book -/

def itemModel : ModelId := ⟨"Item", 1⟩

/-- The fields of items: a key alone. -/
def itemBody : List FieldSpec :=
  [⟨"id", .type (.native .int), .object (.value .null) (.options
      { type := .sqlType .integer, nullable := .bool false, unique := .bool true
        isKey := .bool true })⟩]

def items : Catalog :=
  ((Catalog.empty.declare itemModel none true itemBody).mapModel .own itemModel (.text "items")).1

def bookModel : ModelId := ⟨"Book", 2⟩

/-- The fields that books have beside those of items. -/
def bookBody : List FieldSpec := [⟨"title", .type (.native .str), .plain (.text "")⟩]

theorem items_grown : items.Grown := by
  refine .mapModel .own (.text "items") (.declare none true itemBody .empty rfl) ?_
  intro n k hk hmem
  have hclass := List.mem_of_find?_eq_some hk
  cases List.mem_singleton.mp hclass
  cases hmem

/-- The catalog of items with books, which are made a record class first or not. -/
def books (record : Bool) : Catalog × Option Error :=
  items.mapNew bookModel (some itemModel) false bookBody record .own (.text "books")

theorem columns_of_mapNew_book :
    items.class? bookModel = none ∧ (items.registry .own).slot? bookModel = none ∧
      (books true).2 = none ∧
      ∃ e, (books true).1.entity bookModel = .ok e ∧ e.columns.length = 2 := by
  have hmapped : (books true).2 = none := by rfl
  have hbooks : items.mapNew bookModel (some itemModel) false bookBody true .own (.text "books") =
      ((books true).1, none) := Prod.ext rfl hmapped
  obtain ⟨e, hint, fields, he, hfields, -, hcolumns, -⟩ := columns_of_mapNew rfl rfl hbooks
  have hlength : ((books true).1.fields? bookModel).map
      (fun fs => (fs.filter Field.isMapped).length) = some 2 := by
    decide +kernel
  refine ⟨rfl, rfl, hmapped, e, he, ?_⟩
  rw [hfields] at hlength
  rw [← hcolumns.length_eq]
  exact Option.some.inj hlength

/-- The column of the key of items. -/
def itemKey : Column :=
  ⟨.plain "id", .integer, .bool false, .bool true, .bool true, .text "id", .null⟩

/-- Not every field that a class declares is mapped: a class that is derived from a record class and
not made one itself loses its own. -/
theorem not_every_field_mapped :
    ¬ ∀ (c c' : Catalog) (id : ModelId) (base : Option ModelId) (persistent : Bool)
      (body : List FieldSpec) (record : Bool) (scope : Scope) (table : Value),
      c.Grown → c.class? id = none → (c.registry scope).slot? id = none →
      c.mapNew id base persistent body record scope table = (c', none) →
      ∃ e, c'.entity id = .ok e ∧ ∀ s ∈ body,
        (∀ d, bodyAttribute? body s.name ≠ some (.object d .off)) →
          ∃ column ∈ e.columns, column.field = .text s.name := by
  intro hall
  have hmapped : (books false).2 = none := by rfl
  have hbooks : items.mapNew bookModel (some itemModel) false bookBody false .own (.text "books") =
      ((books false).1, none) := Prod.ext rfl hmapped
  obtain ⟨e, he, hfields⟩ := hall items _ bookModel _ false bookBody false .own _ items_grown rfl
    rfl hbooks
  have hentity : (books false).1.entity bookModel =
      .ok ⟨bookModel, .plain "books", [itemKey]⟩ := by rfl
  obtain ⟨column, hcolumn, hfield⟩ := hfields _ List.mem_cons_self nofun
  rw [hentity] at he
  cases he
  cases List.mem_singleton.mp hcolumn
  have hname : "id" = "title" := Value.text.inj hfield
  exact absurd hname (by decide)

end Catalog

end RelMap
