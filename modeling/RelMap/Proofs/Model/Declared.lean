import RelMap.Catalog
import RelMap.Proofs.Result

/-!
# Declared models

Columns join a model one by one, and each is compared with those that are there.  A registry is
declared if it comes of such steps alone (`Registry.Declared`); then the columns of each model are
compatible: their names are identifiers, no two of them collide, and at most one is the primary key.
All operations of a catalog keep both its registries declared.
-/

namespace RelMap

theorem isIdentifier_of_checkName {role : String} {v : Value} {n : Name}
    (h : checkName role v = .ok n) : n.isIdentifier = true :=
  (checkName_eq_ok.mp h).2

/-- The elements of a list that are compared with all earlier ones are equal or compared. -/
theorem eq_or_of_pairwise {α : Type} {R : α → α → Prop} {xs : List α} (hR : ∀ x y, R x y → R y x)
    (h : xs.Pairwise R) {x y : α} (hx : x ∈ xs) (hy : y ∈ xs) : x = y ∨ R x y := by
  induction h with
  | nil => cases hx
  | @cons z zs hall _ ih =>
    rcases List.mem_cons.mp hx with rfl | hx'
    · rcases List.mem_cons.mp hy with rfl | hy'
      · exact .inl rfl
      · exact .inr (hall y hy')
    · rcases List.mem_cons.mp hy with rfl | hy'
      · exact .inr (hR _ _ (hall x hx'))
      · exact ih hx' hy'

namespace Column

/-- Neither column keeps the other out of a model. -/
def IsApart (c d : Column) : Prop :=
  c.collides d = false ∧ (c.isKey.truthy && d.isKey.truthy) = false

theorem IsApart.symm {c d : Column} (h : c.IsApart d) : d.IsApart c := by
  obtain ⟨hcollides, hkey⟩ := h
  refine ⟨?_, ?_⟩
  · rw [collides_comm]
    exact hcollides
  · rw [Bool.and_comm]
    exact hkey

theorem IsApart.name_ne {c d : Column} (h : c.IsApart d) : c.name.text ≠ d.name.text := by
  have hcollides := h.1
  simp only [collides, Bool.or_eq_false_iff, beq_eq_false_iff_ne] at hcollides
  exact hcollides.2

/-- Columns that stand side by side in a model. -/
structure Compatible (columns : List Column) : Prop where
  named : ∀ c ∈ columns, c.name.isIdentifier = true
  apart : columns.Pairwise IsApart

namespace Compatible

variable {columns : List Column} {c d : Column}

theorem nil : Compatible [] := ⟨nofun, .nil⟩

/-- A column joins the others if its name is an identifier and it is apart from each. -/
theorem concat (h : Compatible columns) (hname : c.name.isIdentifier = true)
    (hapart : ∀ d ∈ columns, d.IsApart c) : Compatible (columns ++ [c]) := by
  constructor
  · intro d hd
    rcases List.mem_append.mp hd with hd | hd
    · exact h.named d hd
    · cases List.mem_singleton.mp hd
      exact hname
  · refine List.pairwise_append.mpr ⟨h.apart, List.pairwise_singleton _ _, ?_⟩
    intro d hd c' hc'
    cases List.mem_singleton.mp hc'
    exact hapart d hd

theorem eq_or_isApart (h : Compatible columns) (hc : c ∈ columns) (hd : d ∈ columns) :
    c = d ∨ c.IsApart d :=
  eq_or_of_pairwise (fun _ _ => IsApart.symm) h.apart hc hd

/-- A column is known by its name. -/
theorem eq_of_name (h : Compatible columns) (hc : c ∈ columns) (hd : d ∈ columns)
    (hname : c.name.text = d.name.text) : c = d := by
  refine (h.eq_or_isApart hc hd).elim id fun hapart => ?_
  exact absurd hname hapart.name_ne

/-- A column is known by its field. -/
theorem eq_of_fieldName (h : Compatible columns) (hc : c ∈ columns) (hd : d ∈ columns)
    {field : String} (hcf : c.fieldName = .ok field) (hdf : d.fieldName = .ok field) : c = d := by
  refine (h.eq_or_isApart hc hd).elim id fun hapart => ?_
  have htext : ∀ b : Column, b.fieldName = .ok field → b.field.key? = some [.text field] := by
    intro b hb
    unfold fieldName at hb
    split at hb
    · next hs =>
      cases hb
      exact Value.key?_of_textOf? hs
    · cases hb
  have hsame : c.field.sameKey d.field = true := by
    rw [Value.sameKey, htext c hcf, htext d hdf, beq_self_eq_true]
    rfl
  have hcollides := hapart.1
  rw [collides, hsame, Bool.true_or] at hcollides
  cases hcollides

theorem eq_of_isKey (h : Compatible columns) (hc : c ∈ columns) (hd : d ∈ columns)
    (hck : c.isKey.truthy = true) (hdk : d.isKey.truthy = true) : c = d := by
  refine (h.eq_or_isApart hc hd).elim id fun hapart => ?_
  have hkeys := hapart.2
  rw [hck, hdk] at hkeys
  cases hkeys

end Compatible

/-- A column that is made has an identifier for its name. -/
theorem isIdentifier_of_make {name : Value} {type : SqlType}
    {nullable unique isKey field length : Value} {c : Column}
    (h : make name type nullable unique isKey field length = .ok c) :
    c.name.isIdentifier = true := by
  obtain ⟨n, hn, h⟩ := Result.bind_eq_ok.mp h
  cases h
  exact isIdentifier_of_checkName hn

end Column

namespace Registry

open Column (Compatible)

theorem slot_put_self (r : Registry) (m : ModelId) (s : Slot) : (r.put m s).slot m = s := by
  rw [slot, slot?_put_self]
  rfl

theorem slot_put_of_ne (r : Registry) {m n : ModelId} (s : Slot) (h : n ≠ m) :
    (r.put m s).slot n = r.slot n := by
  rw [slot, slot?_put_of_ne r s h]
  rfl

/-- Nothing keeps a column out of a model exactly if it is apart from all columns there. -/
theorem conflict?_eq_none {model : String} {c : Column} {columns : List Column} :
    conflict? model c columns = none ↔ ∀ d ∈ columns, d.IsApart c := by
  induction columns with
  | nil => exact ⟨fun _ => nofun, fun _ => rfl⟩
  | cons d rest ih =>
    rw [List.forall_mem_cons, ← ih, conflict?, Column.IsApart]
    cases d.collides c <;> cases d.isKey.truthy && c.isKey.truthy <;> simp

/-- The registries that come of declarations. -/
inductive Declared : Registry → Prop
  | empty : Declared .empty
  | register {r : Registry} (m : ModelId) : Declared r → Declared (r.register m).1
  | setTable {r r' : Registry} {m : ModelId} {table : Value} : Declared r →
      r.setTable m table = .ok r' → Declared r'
  | addColumn {r r' : Registry} {m : ModelId} {c : Column} {name : Value} {type : SqlType}
      {nullable unique isKey field length : Value} : Declared r →
      Column.make name type nullable unique isKey field length = .ok c →
      r.addColumn m c = .ok r' → Declared r'

/-- A slot that is put in keeps the columns of all models compatible if its own are. -/
theorem compatible_put {r : Registry} (h : ∀ n, Compatible (r.slot n).columns) {m : ModelId}
    {s : Slot} (hs : Compatible s.columns) (n : ModelId) :
    Compatible ((r.put m s).slot n).columns := by
  by_cases hn : n = m
  · rw [hn, slot_put_self]
    exact hs
  · rw [slot_put_of_ne r s hn]
    exact h n

namespace Declared

variable {r r' : Registry}

/-- **The columns of a model are compatible**, whatever was declared before and after them. -/
theorem compatible (h : Declared r) (m : ModelId) : Compatible (r.slot m).columns := by
  induction h generalizing m with
  | empty => exact .nil
  | @register r n _ ih =>
    unfold Registry.register
    dsimp only
    split
    · exact ih m
    · exact compatible_put ih (s := { r.slot n with registered := true }) (ih n) m
  | @setTable r r' n table _ hset ih =>
    obtain ⟨name, -, hset⟩ := Result.bind_eq_ok.mp hset
    cases hset
    exact compatible_put ih (s := { r.slot n with table := name }) (ih n) m
  | @addColumn r r' n c _ _ _ _ _ _ _ _ hmake hadd ih =>
    unfold Registry.addColumn at hadd
    dsimp only at hadd
    split at hadd
    · cases hadd
    · next hnone =>
      cases hadd
      have hconcat := (ih n).concat (Column.isIdentifier_of_make hmake)
        (conflict?_eq_none.mp hnone)
      exact compatible_put ih (s := { r.slot n with columns := (r.slot n).columns ++ [c] })
        hconcat m

/-- The columns of a model that has metadata are compatible. -/
theorem compatible_of_entity (h : Declared r) {m : ModelId} {e : Entity}
    (he : r.entity m = .ok e) : Compatible e.columns := by
  have hslot := h.compatible m
  unfold Registry.entity at he
  unfold Registry.slot at hslot
  split at he
  · next s hs =>
    rw [hs] at hslot
    split at he
    · cases he
      exact hslot
    · cases he
  · cases he

/-! ### Mapping a model -/

theorem collectColumn {m : ModelId} {o : ColumnOptions} {field : Value} {hint : FieldType}
    {c : Column} (h : Declared r) (hcollect : r.collectColumn m o field hint = .ok (r', c)) :
    Declared r' := by
  obtain ⟨c', hc', hcollect⟩ := Result.bind_eq_ok.mp hcollect
  obtain ⟨r'', hadd, hcollect⟩ := Result.bind_eq_ok.mp hcollect
  obtain ⟨t, -, hmake⟩ := Result.bind_eq_ok.mp hc'
  cases hcollect
  exact .addColumn h hmake hadd

theorem collectField {m : ModelId} {f : Field} {hint : FieldType} (h : Declared r)
    (hcollect : r.collectField m f hint = .ok r') : Declared r' := by
  unfold Registry.collectField at hcollect
  split at hcollect
  · cases hcollect
    exact h
  · cases hcollect
  · obtain ⟨⟨r'', c⟩, hcolumn, rfl⟩ := Result.map_eq_ok.mp hcollect
    exact h.collectColumn hcolumn

/-- The columns before the one that fails are declared, too. -/
theorem collectFields {m : ModelId} {hint : Field → FieldType} (h : Declared r)
    (fields : List Field) : Declared (r.collectFields m hint fields).1 := by
  induction fields generalizing r with
  | nil => exact h
  | cons f rest ih =>
    unfold Registry.collectFields
    split
    · next r'' hf => exact ih (h.collectField hf)
    · exact h

theorem collectEntity {m : ModelId} {table : Value} {byInstance : Bool} {events : List Event}
    (h : Declared r) (hcollect : r.collectEntity m table byInstance = .ok (r', events)) :
    Declared r' := by
  unfold Registry.collectEntity at hcollect
  split at hcollect
  · cases hcollect
  · obtain ⟨r'', hset, hcollect⟩ := Result.bind_eq_ok.mp hcollect
    have hregister : r''.register m = (r', events) := Except.ok.inj hcollect
    have hdeclared := (h.setTable hset).register m
    rw [hregister] at hdeclared
    exact hdeclared

end Declared

end Registry

namespace Catalog

/-- Both registries of the catalog come of declarations. -/
def Declared (catalog : Catalog) : Prop := ∀ scope, (catalog.registry scope).Declared

namespace Declared

variable {catalog : Catalog}

theorem empty : Catalog.empty.Declared := by
  intro scope
  cases scope <;> exact .empty

theorem withRegistry (h : catalog.Declared) {r : Registry} (hr : r.Declared) (scope : Scope) :
    (catalog.withRegistry scope r).Declared := by
  intro scope'
  cases scope <;> cases scope'
  · exact hr
  · exact h .shared
  · exact h .own
  · exact hr

theorem putClass (h : catalog.Declared) (k : ModelClass) : (catalog.putClass k).Declared := by
  unfold Catalog.putClass
  split
  · exact h
  · exact h

theorem declare (h : catalog.Declared) (id : ModelId) (base : Option ModelId) (persistent : Bool)
    (body : List FieldSpec) : (catalog.declare id base persistent body).Declared :=
  h.putClass _

theorem compose (h : catalog.Declared) (m : ModelId) : (catalog.compose m).1.Declared := by
  unfold Catalog.compose
  split
  · exact h
  · split
    · exact h.putClass _
    · exact h

/-- Mapping a model keeps the registries declared, whether or not it fails. -/
theorem mapModel (h : catalog.Declared) (scope : Scope) (m : ModelId) (table : Value) :
    (catalog.mapModel scope m table).1.Declared := by
  have hcomposed : (if (catalog.fields? m).isSome then (catalog, none)
      else catalog.compose m).1.Declared := by
    split
    · exact h
    · exact h.compose m
  unfold Catalog.mapModel
  revert hcomposed
  generalize (if (catalog.fields? m).isSome then (catalog, none) else catalog.compose m) = composed
  obtain ⟨c, failure⟩ := composed
  intro hc
  dsimp only at hc ⊢
  split
  · exact hc
  · exact hc
  · next hints _ =>
    have hfields : ((c.registry scope).collectFields m hints ((c.fields? m).getD [])).1.Declared :=
      (hc scope).collectFields _
    have hkept := hc.withRegistry hfields scope
    split
    · exact hkept
    · split
      · exact hkept
      · next r events hentity =>
        have hmapped := hkept.withRegistry (hfields.collectEntity hentity) scope
        dsimp only
        split
        · exact hmapped.putClass _
        · exact hmapped

theorem compatible (h : catalog.Declared) {m : ModelId} {e : Entity}
    (he : catalog.entity m = .ok e) : Column.Compatible e.columns :=
  (h (catalog.scopeOf m)).compatible_of_entity he

end Declared

end Catalog

end RelMap
