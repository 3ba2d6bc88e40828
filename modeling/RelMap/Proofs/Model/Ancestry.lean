import RelMap.Proofs.Model.Mapped

/-!
# Base classes

A class knows its base classes by their names.  Composing it replaces the class under its name, and
keeps its base classes and its home (`Catalog.compose_cases`).

In a catalog into which classes are declared one behind the other, behind each base class of a class
stand the base classes of that one (`Catalog.Rooted`).  So composing a class that has no fields to
take gives the classes derived from it none (`Catalog.Rooted.fields?_compose`).
-/

namespace RelMap

/-! ## Classes that take their fields from others -/

theorem ModelClass.keeps_of_compose {bases : List ModelClass} {k k' : ModelClass}
    {e : Option Error} (h : k.compose bases = .ok (k', e)) :
    k'.id = k.id ∧ k'.ancestors = k.ancestors ∧ k'.home = k.home ∧ ∃ fs, k'.fields = some fs := by
  obtain ⟨own, -, h⟩ := Result.bind_eq_ok.mp h
  dsimp only at h
  split at h
  · cases h
  · split at h
    all_goals
      cases h
      exact ⟨rfl, rfl, rfl, _, rfl⟩

namespace Catalog

variable {c c' d : Catalog} {m n id : ModelId} {scope s : Scope} {table : Value}

theorem registry_withRegistry_of_ne (h : s ≠ scope) (r : Registry) :
    (c.withRegistry scope r).registry s = c.registry s := by
  cases s <;> cases scope <;> first | rfl | exact absurd rfl h

theorem withRegistry_withRegistry (c : Catalog) (scope : Scope) (r r' : Registry) :
    (c.withRegistry scope r).withRegistry scope r' = c.withRegistry scope r' := by
  cases scope <;> rfl

/-- What is found first in a class and its base classes is found by their names. -/
theorem findSome?_lineage {α : Type} (c : Catalog) (m : ModelId) (g : ModelClass → Option α) :
    (c.lineage m).findSome? g = ((c.class? m).map ModelClass.ancestors).bind fun ids =>
      (m :: ids).findSome? fun a => (c.class? a).bind g := by
  cases hm : c.class? m with
  | none =>
    rw [lineage_of_unknown hm]
    rfl
  | some k =>
    have hfilter : ∀ ids : List ModelId, (ids.filterMap c.class?).findSome? g =
        ids.findSome? fun a => (c.class? a).bind g := by
      intro ids
      induction ids with
      | nil => rfl
      | cons a ids ih =>
        rw [List.filterMap_cons, List.findSome?_cons]
        cases ha : c.class? a with
        | none => exact ih
        | some b =>
          dsimp only
          rw [List.findSome?_cons, ih]
          rfl
    rw [lineage_of_class? hm, List.findSome?_cons, hfilter, Option.map_some, Option.bind_some,
      List.findSome?_cons, hm]
    rfl

theorem findSome?_congr {α : Type} {g : ModelClass → Option α} {ids : List ModelId}
    (h : ∀ a ∈ ids, c'.class? a = c.class? a) :
    (ids.findSome? fun a => (c'.class? a).bind g) = ids.findSome? fun a => (c.class? a).bind g := by
  induction ids with
  | nil => rfl
  | cons a ids ih =>
    rw [List.forall_mem_cons] at h
    rw [List.findSome?_cons, List.findSome?_cons, h.1, ih h.2]

/-- Composing a class replaces it by one with the same base classes and the same home. -/
theorem compose_cases (c : Catalog) (m : ModelId) :
    (c.compose m).1 = c ∨ ∃ k k', c.class? m = some k ∧ k'.id = m ∧ k'.ancestors = k.ancestors ∧
      k'.home = k.home ∧ (c.compose m).1 = c.putClass k' := by
  cases hm : c.class? m with
  | none => exact Or.inl (by rw [compose_of_unknown hm])
  | some k =>
    unfold compose
    rw [lineage_of_class? hm]
    dsimp only
    split
    · next k' e hk' =>
      obtain ⟨hid, hancestors, hhome, -⟩ := ModelClass.keeps_of_compose hk'
      exact Or.inr ⟨k, k', rfl, hid.trans (id_of_class? hm), hancestors, hhome, rfl⟩
    · exact Or.inl rfl

/-- A class that is composed has fields. -/
theorem exists_fields_compose (hm : c.class? m ≠ none) (h : (c.compose m).2 = none) :
    ∃ fs, (c.compose m).1.fields? m = some fs := by
  obtain ⟨k, hk⟩ := Option.ne_none_iff_exists'.mp hm
  revert h
  unfold compose
  rw [lineage_of_class? hk]
  dsimp only
  split
  · next k' e hk' =>
    intro
    obtain ⟨hid, -, -, fs, hfs⟩ := ModelClass.keeps_of_compose hk'
    refine ⟨fs, ?_⟩
    rw [← id_of_class? hk, ← hid, fields?, lineage_of_class? (class?_putClass_self c k'),
      List.findSome?_cons, hfs]
  · intro h
    cases h

theorem class?_compose_of_ne (h : n ≠ m) : (c.compose m).1.class? n = c.class? n := by
  rcases compose_cases c m with hsame | ⟨k, k', -, hid, -, -, hput⟩
  · rw [hsame]
  · rw [hput, class?_putClass_of_ne (hid ▸ h)]

theorem ancestors_compose (c : Catalog) (m n : ModelId) :
    ((c.compose m).1.class? n).map ModelClass.ancestors =
      (c.class? n).map ModelClass.ancestors := by
  rcases compose_cases c m with hsame | ⟨k, k', hk, rfl, hancestors, -, hput⟩
  · rw [hsame]
  · rw [hput, class?_putClass]
    split
    · next hn => rw [hn, hk, Option.map_some, Option.map_some, hancestors]
    · rfl

theorem home_compose (c : Catalog) (m n : ModelId) :
    ((c.compose m).1.class? n).bind ModelClass.home = (c.class? n).bind ModelClass.home := by
  rcases compose_cases c m with hsame | ⟨k, k', hk, rfl, -, hhome, hput⟩
  · rw [hsame]
  · rw [hput, class?_putClass]
    split
    · next hn => rw [hn, hk, Option.bind_some, Option.bind_some, hhome]
    · rfl

/-- Composing a class changes no answer about any model. -/
theorem entity_compose (c : Catalog) (m n : ModelId) : (c.compose m).1.entity n = c.entity n := by
  have hscope : (c.compose m).1.scopeOf n = c.scopeOf n := by
    unfold scopeOf
    rw [findSome?_lineage, findSome?_lineage, ancestors_compose]
    simp only [home_compose]
  rw [entity, entity, hscope, registry_compose]

/-! ### Base classes stand in the catalog -/

/-- The base classes of every class are classes of the catalog, and behind each of them stand the
base classes of that one. -/
def Rooted (c : Catalog) : Prop :=
  ∀ m k, c.class? m = some k → ∀ before a behind, m :: k.ancestors = before ++ a :: behind →
    ∃ b, c.class? a = some b ∧ b.ancestors = behind

namespace Rooted

theorem congr (hc : c.Rooted) (h : ∀ n, (c'.class? n).map ModelClass.ancestors =
    (c.class? n).map ModelClass.ancestors) : c'.Rooted := by
  have hback : ∀ {n k as}, c.class? n = some k → k.ancestors = as →
      ∃ k', c'.class? n = some k' ∧ k'.ancestors = as := by
    intro n k as hk has
    have hn := h n
    rw [hk, Option.map_some, Option.map_eq_some_iff] at hn
    obtain ⟨k', hk', hancestors⟩ := hn
    exact ⟨k', hk', hancestors.trans has⟩
  intro m k' hk' before a behind hsplit
  have hm := h m
  rw [hk', Option.map_some, eq_comm, Option.map_eq_some_iff] at hm
  obtain ⟨k, hk, hancestors⟩ := hm
  rw [← hancestors] at hsplit
  obtain ⟨b, hb, hbehind⟩ := hc m k hk before a behind hsplit
  exact hback hb hbehind

theorem class?_ne_none (hc : c.Rooted) {k : ModelClass} (hk : c.class? m = some k) {a : ModelId}
    (ha : a ∈ m :: k.ancestors) : c.class? a ≠ none := by
  obtain ⟨before, behind, hsplit⟩ := List.append_of_mem ha
  obtain ⟨b, hb, -⟩ := hc m k hk before a behind hsplit
  exact Option.ne_none_iff_exists'.mpr ⟨b, hb⟩

/-- The names of a class and its base classes. -/
theorem ids_lineage (hc : c.Rooted) {k : ModelClass} (hk : c.class? m = some k) :
    (c.lineage m).map ModelClass.id = m :: k.ancestors := by
  rw [lineage_of_class? hk, List.map_cons, id_of_class? hk,
    ids_filterMap_class? fun a ha => hc.class?_ne_none hk (List.mem_cons_of_mem m ha)]

/-- A class is declared in front of base classes that are there. -/
theorem declare (hc : c.Rooted) (hnew : c.class? id = none) (base : Option ModelId)
    (persistent : Bool) (body : List FieldSpec) :
    (c.declare id base persistent body).Rooted := by
  have hkept : ∀ {a b}, c.class? a = some b →
      (c.declare id base persistent body).class? a = some b := by
    intro a b hb
    refine (class?_putClass_of_ne (k := c.newClass id base persistent body) ?_).trans hb
    rintro rfl
    cases hnew.symm.trans hb
  intro m k hk before a behind hsplit
  change (c.putClass (c.newClass id base persistent body)).class? m = some k at hk
  rw [class?_putClass] at hk
  split at hk
  · next hm =>
    cases hm
    cases hk
    cases before with
    | nil =>
      cases hsplit
      exact ⟨_, class?_putClass_self c (c.newClass id base persistent body), rfl⟩
    | cons _ before =>
      have hbases : (c.basesOf base).map ModelClass.id = before ++ a :: behind :=
        (List.cons.inj hsplit).2
      have hfound : ∃ p q, c.class? p = some q ∧ p :: q.ancestors = before ++ a :: behind := by
        cases base with
        | none => exact absurd hbases (by simp [basesOf])
        | some p =>
          change (c.lineage p).map ModelClass.id = _ at hbases
          cases hp : c.class? p with
          | none =>
            rw [lineage_of_unknown hp] at hbases
            exact absurd hbases (by simp)
          | some q =>
            rw [hc.ids_lineage hp] at hbases
            exact ⟨p, q, hp, hbases⟩
      obtain ⟨p, q, hp, hq⟩ := hfound
      obtain ⟨b, hb, hbehind⟩ := hc p q hp before a behind hq
      exact ⟨b, hkept hb, hbehind⟩
  · obtain ⟨b, hb, hbehind⟩ := hc m k hk before a behind hsplit
    exact ⟨b, hkept hb, hbehind⟩

/-- A class that has no fields to take is composed without giving or taking fields of others. -/
theorem fields?_compose (hc : c.Rooted) (hnone : c.fields? n = none) {fs : List Field}
    (hfields : c.fields? m = some fs) : (c.compose n).1.fields? m = some fs := by
  rw [fields?, findSome?_lineage, Option.bind_eq_some_iff] at hfields
  obtain ⟨ids, hids, hfound⟩ := hfields
  rw [fields?, findSome?_lineage, ancestors_compose, hids, Option.bind_some]
  obtain ⟨k, hk, rfl⟩ := Option.map_eq_some_iff.mp hids
  have hothers : ∀ ids : List ModelId, n ∉ ids →
      (ids.findSome? fun a => ((c.compose n).1.class? a).bind ModelClass.fields) =
        ids.findSome? fun a => (c.class? a).bind ModelClass.fields := by
    intro ids hn
    refine findSome?_congr fun a ha => class?_compose_of_ne ?_
    rintro rfl
    exact hn ha
  by_cases hn : n ∈ m :: k.ancestors
  · -- the class and those behind it have no fields, so the fields are found before it
    obtain ⟨before, behind, hsplit, hfirst⟩ := List.eq_append_cons_of_mem hn
    obtain ⟨b, hb, rfl⟩ := hc m k hk before n behind hsplit
    rw [fields?, findSome?_lineage, hb, Option.map_some, Option.bind_some] at hnone
    rw [hsplit, List.findSome?_append, hnone, Option.or_none] at hfound
    rw [hsplit, List.findSome?_append, hothers before hfirst, hfound]
    rfl
  · rw [hothers _ hn, hfound]

/-- A class that is declared changes nothing of those that are there. -/
theorem fields?_declare (hc : c.Rooted) (hnew : c.class? id = none)
    (h : ∀ a, a ≠ id → c'.class? a = c.class? a) {fs : List Field}
    (hfields : c.fields? m = some fs) : c'.fields? m = some fs := by
  rw [fields?, findSome?_lineage, Option.bind_eq_some_iff] at hfields
  obtain ⟨ids, hids, hfound⟩ := hfields
  obtain ⟨k, hk, rfl⟩ := Option.map_eq_some_iff.mp hids
  have hkept : ∀ a ∈ m :: k.ancestors, c'.class? a = c.class? a := by
    intro a ha
    refine h a ?_
    rintro rfl
    exact hc.class?_ne_none hk ha hnew
  rw [fields?, findSome?_lineage, hkept m List.mem_cons_self, hids, Option.bind_some, ← hfound]
  exact findSome?_congr hkept

end Rooted

end Catalog

end RelMap
