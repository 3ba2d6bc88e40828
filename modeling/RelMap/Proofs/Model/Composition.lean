import RelMap.Model.Class
import RelMap.Proofs.Result

/-!
# Record classes

Which fields a record class has: the fields of its base classes in their order, each replaced by the
class's own field of that name if there is one, and then the other fields of its own
(`Field.overlay`).  A name stands for one field of a class.
-/

namespace RelMap

/-! ## Names that are added in order -/

/-- Names with one more at the end, unless it is there. -/
def addName (names : List String) (name : String) : List String :=
  if name ∈ names then names else names ++ [name]

theorem mem_addName {names : List String} {name other : String} :
    other ∈ addName names name ↔ other ∈ names ∨ other = name := by
  unfold addName
  split
  · next h =>
    constructor
    · exact Or.inl
    · rintro (h' | rfl)
      · exact h'
      · exact h
  · rw [List.mem_append, List.mem_singleton]

theorem nodup_addName {names : List String} (h : names.Nodup) (name : String) :
    (addName names name).Nodup := by
  unfold addName
  split
  · exact h
  · next hname =>
    refine List.nodup_append.mpr ⟨h, List.pairwise_singleton _ _, ?_⟩
    rintro a ha b hb rfl
    exact hname (List.mem_singleton.mp hb ▸ ha)

/-- Names that are added one after the other stand in the order of their first occurrences. -/
theorem foldl_addName (names : List String) : names.foldl addName [] = names.eraseDups := by
  have hloop : ∀ (names found : List String), names.foldl addName found.reverse =
      List.eraseDupsBy.loop (fun a b => a == b) names found := by
    intro names
    induction names with
    | nil => exact fun found => rfl
    | cons name names ih =>
      intro found
      rw [List.foldl_cons, List.eraseDupsBy.loop, addName]
      by_cases h : name ∈ found
      · have hany : (found.any fun b => name == b) = true :=
          List.any_eq_true.mpr ⟨name, h, beq_self_eq_true name⟩
        rw [if_pos (List.mem_reverse.mpr h), hany]
        exact ih found
      · have hany : (found.any fun b => name == b) = false := by
          refine List.any_eq_false.mpr fun b hb hname => h ?_
          rw [eq_of_beq hname]
          exact hb
        rw [if_neg fun hr => h (List.mem_reverse.mp hr), hany, ← List.reverse_cons]
        exact ih (name :: found)
  exact hloop names []

theorem nodup_eraseDups (names : List String) : names.eraseDups.Nodup := by
  have hfold : ∀ (names found : List String), found.Nodup → (names.foldl addName found).Nodup := by
    intro names
    induction names with
    | nil => exact fun _ h => h
    | cons name names ih => exact fun found h => ih _ (nodup_addName h name)
  rw [← foldl_addName]
  exact hfold names [] List.nodup_nil

/-! ## Pairs under names -/

section Pairs

variable {α : Type} {name key : String} {pairs : List (String × α)}

theorem getPair?_cons (name : String) (p : String × α) (rest : List (String × α)) :
    getPair? name (p :: rest) = if p.1 = name then some p.2 else getPair? name rest := by
  unfold getPair?
  rw [List.find?_cons]
  by_cases h : p.1 = name
  · rw [if_pos h, beq_iff_eq.mpr h]
    rfl
  · rw [if_neg h, beq_eq_false_iff_ne.mpr h]

theorem getPair?_putPair_self (key : String) (v : α) (pairs : List (String × α)) :
    getPair? key (putPair key v pairs) = some v := by
  induction pairs with
  | nil => rw [putPair, getPair?_cons, if_pos rfl]
  | cons p rest ih =>
    unfold putPair
    split
    · rw [getPair?_cons, if_pos rfl]
    · next hp => rw [getPair?_cons, if_neg fun h => hp (beq_iff_eq.mpr h), ih]

theorem getPair?_putPair_of_ne (h : name ≠ key) (v : α) (pairs : List (String × α)) :
    getPair? name (putPair key v pairs) = getPair? name pairs := by
  induction pairs with
  | nil => rw [putPair, getPair?_cons, if_neg h.symm]
  | cons p rest ih =>
    unfold putPair
    split
    · next hp =>
      rw [getPair?_cons, if_neg h.symm, getPair?_cons, if_neg (eq_of_beq hp ▸ h.symm)]
    · rw [getPair?_cons, getPair?_cons, ih]

theorem getPair?_eq_none (h : ∀ p ∈ pairs, p.1 ≠ name) : getPair? name pairs = none := by
  induction pairs with
  | nil => rfl
  | cons p rest ih =>
    rw [getPair?_cons, if_neg (h p List.mem_cons_self)]
    exact ih fun q hq => h q (List.mem_cons_of_mem p hq)

/-- Where all pairs under a name have one value, and there is a pair, the value is found. -/
theorem getPair?_of_all {v : α} (hsome : ∃ p ∈ pairs, p.1 = name)
    (hall : ∀ p ∈ pairs, p.1 = name → p.2 = v) : getPair? name pairs = some v := by
  induction pairs with
  | nil =>
    obtain ⟨p, hp, -⟩ := hsome
    cases hp
  | cons p rest ih =>
    rw [getPair?_cons]
    split
    · next hp => rw [hall p List.mem_cons_self hp]
    · next hp =>
      refine ih ?_ fun q hq => hall q (List.mem_cons_of_mem p hq)
      obtain ⟨q, hq, hname⟩ := hsome
      rcases List.mem_cons.mp hq with rfl | hq
      · exact (hp hname).elim
      · exact ⟨q, hq, hname⟩

theorem names_putPair (key : String) (v : α) (pairs : List (String × α)) :
    (putPair key v pairs).map Prod.fst = addName (pairs.map Prod.fst) key := by
  induction pairs with
  | nil => rfl
  | cons p rest ih =>
    unfold putPair addName
    split
    · next hp =>
      have hp := eq_of_beq hp
      rw [if_pos (by rw [List.map_cons, hp]; exact List.mem_cons_self), List.map_cons,
        List.map_cons, hp]
    · next hp =>
      have hne : key ≠ p.1 := fun heq => hp (beq_iff_eq.mpr heq.symm)
      rw [List.map_cons, ih, List.map_cons]
      unfold addName
      by_cases h : key ∈ rest.map Prod.fst
      · rw [if_pos h, if_pos (List.mem_cons_of_mem _ h)]
      · rw [if_neg h, if_neg (List.not_mem_cons_of_ne_of_not_mem hne h), List.cons_append]

end Pairs

/-! ## Fields that replace fields -/

/-- The fields of a record class: the inherited ones, each replaced by the class's own field of that
name if there is one, and then the other fields of its own. -/
def Field.overlay (inherited own : List Field) : List Field :=
  (inherited.map fun g => (own.find? fun f => f.name = g.name).getD g) ++
    own.filter fun f => f.name ∉ inherited.map Field.name

section Fields

variable {f : Field} {fields inherited own : List Field}

/-- Putting a field is putting a pair of it under its name. -/
theorem putField_pairs (f : Field) (fields : List Field) :
    (putField f fields).map (fun g => (g.name, g)) =
      putPair f.name f (fields.map fun g => (g.name, g)) := by
  induction fields with
  | nil => rfl
  | cons g rest ih =>
    rw [putField, List.map_cons, putPair]
    split
    · rfl
    · rw [List.map_cons, ih]

theorem names_putField (f : Field) (fields : List Field) :
    (putField f fields).map Field.name = addName (fields.map Field.name) f.name := by
  have hpairs := congrArg (List.map Prod.fst) (putField_pairs f fields)
  rw [names_putPair, List.map_map, List.map_map] at hpairs
  exact hpairs

theorem putField_of_not_mem (h : f.name ∉ fields.map Field.name) :
    putField f fields = fields ++ [f] := by
  induction fields with
  | nil => rfl
  | cons g rest ih =>
    rw [List.map_cons, List.mem_cons, not_or] at h
    have hg : ¬ (g.name == f.name) = true := fun heq => h.1 (eq_of_beq heq).symm
    rw [putField, if_neg hg, ih h.2, List.cons_append]

theorem putField_of_mem (hnodup : (fields.map Field.name).Nodup)
    (h : f.name ∈ fields.map Field.name) :
    putField f fields = fields.map fun g => if g.name = f.name then f else g := by
  induction fields with
  | nil => cases h
  | cons g rest ih =>
    rw [List.map_cons, List.nodup_cons] at hnodup
    rw [putField, List.map_cons]
    by_cases hg : g.name = f.name
    · have hrest : (rest.map fun g => if g.name = f.name then f else g) = rest := by
        refine (List.map_congr_left fun g' hg' => if_neg fun heq => ?_).trans (List.map_id rest)
        refine hnodup.1 (hg ▸ heq ▸ ?_)
        exact List.mem_map.mpr ⟨g', hg', rfl⟩
      rw [if_pos (beq_iff_eq.mpr hg), if_pos hg, hrest]
    · have hmem : f.name ∈ rest.map Field.name :=
        (List.mem_cons.mp h).resolve_left fun heq => hg heq.symm
      rw [if_neg fun heq => hg (eq_of_beq heq), if_neg hg, ih hnodup.2 hmem]

theorem find?_eq_none_of_not_mem {name : String} (h : name ∉ fields.map Field.name) :
    (fields.find? fun g => g.name = name) = none := by
  refine List.find?_eq_none.mpr fun g hg heq => h ?_
  exact List.mem_map.mpr ⟨g, hg, of_decide_eq_true heq⟩

/-- Putting a field first is putting it over the inherited ones. -/
theorem overlay_putField (hinherited : (inherited.map Field.name).Nodup)
    (hf : f.name ∉ own.map Field.name) :
    Field.overlay (putField f inherited) own = Field.overlay inherited (f :: own) := by
  have hfind := find?_eq_none_of_not_mem hf
  unfold Field.overlay
  rw [names_putField, List.filter_cons]
  by_cases h : f.name ∈ inherited.map Field.name
  · have hkeep : ¬ decide (f.name ∉ inherited.map Field.name) = true :=
      fun hnot => of_decide_eq_true hnot h
    rw [putField_of_mem hinherited h, List.map_map, addName, if_pos h, if_neg hkeep]
    congr 1
    refine List.map_congr_left fun g _ => ?_
    rw [Function.comp_apply, List.find?_cons]
    by_cases hg : g.name = f.name
    · rw [if_pos hg, hfind, hg, decide_eq_true rfl]
      rfl
    · rw [if_neg hg, decide_eq_false (Ne.symm hg)]
  · have hmap : inherited.map (fun g => ((f :: own).find? fun f => f.name = g.name).getD g) =
        inherited.map fun g => (own.find? fun f => f.name = g.name).getD g := by
      refine List.map_congr_left fun g hg => ?_
      have hne : f.name ≠ g.name := fun heq => h (heq ▸ List.mem_map.mpr ⟨g, hg, rfl⟩)
      rw [List.find?_cons, decide_eq_false hne]
    have hfilter : own.filter (fun g => g.name ∉ inherited.map Field.name ++ [f.name]) =
        own.filter fun g => g.name ∉ inherited.map Field.name := by
      refine List.filter_congr fun g hg => decide_eq_decide.mpr (not_congr ?_)
      have hne : g.name ≠ f.name := fun heq => hf (heq ▸ List.mem_map.mpr ⟨g, hg, rfl⟩)
      rw [List.mem_append, List.mem_singleton, or_iff_left hne]
    rw [putField_of_not_mem h, List.map_append, addName, if_neg h, if_pos (decide_eq_true h), hmap,
      hfilter, List.append_assoc, List.map_singleton, hfind]
    rfl

/-- The names of fields that are put one after the other stay apart. -/
theorem nodup_putField (h : (fields.map Field.name).Nodup) (f : Field) :
    ((putField f fields).map Field.name).Nodup := by
  rw [names_putField]
  exact nodup_addName h f.name

theorem nodup_foldl_putField (h : (inherited.map Field.name).Nodup) (own : List Field) :
    ((own.foldl (fun fs f => putField f fs) inherited).map Field.name).Nodup := by
  induction own generalizing inherited with
  | nil => exact h
  | cons f own ih => exact ih (nodup_putField h f)

theorem mem_putField_self (f : Field) (fields : List Field) : f ∈ putField f fields := by
  induction fields with
  | nil => exact List.mem_singleton_self f
  | cons g rest ih =>
    unfold putField
    split
    · exact List.mem_cons_self
    · exact List.mem_cons_of_mem g ih

theorem mem_putField_of_ne {g : Field} (hf : f ∈ fields) (hne : f.name ≠ g.name) :
    f ∈ putField g fields := by
  induction fields with
  | nil => cases hf
  | cons h rest ih =>
    unfold putField
    split
    · next hname =>
      rcases List.mem_cons.mp hf with rfl | hf
      · exact (hne (eq_of_beq hname)).elim
      · exact List.mem_cons_of_mem g hf
    · rcases List.mem_cons.mp hf with rfl | hf
      · exact List.mem_cons_self
      · exact List.mem_cons_of_mem h (ih hf)

/-- A field stays among the fields when others of different names are put. -/
theorem mem_foldl_putField (hown : (own.map Field.name).Nodup)
    (hf : f ∈ own ∨ f ∈ fields ∧ f.name ∉ own.map Field.name) :
    f ∈ own.foldl (fun fs g => putField g fs) fields := by
  induction own generalizing fields with
  | nil => exact (hf.resolve_left List.not_mem_nil).1
  | cons g own ih =>
    obtain ⟨hg, hown⟩ := List.nodup_cons.mp hown
    refine ih hown ?_
    rcases hf with hf | ⟨hf, hname⟩
    · rcases List.mem_cons.mp hf with rfl | hf
      · exact .inr ⟨mem_putField_self f fields, hg⟩
      · exact .inl hf
    · obtain ⟨hne, hname⟩ := not_or.mp (mt List.mem_cons.mpr hname)
      exact .inr ⟨mem_putField_of_ne hf hne, hname⟩

theorem mem_names_foldl_putField {name : String} :
    name ∈ (own.foldl (fun fs f => putField f fs) inherited).map Field.name ↔
      name ∈ inherited.map Field.name ∨ name ∈ own.map Field.name := by
  induction own generalizing inherited with
  | nil => exact (or_iff_left List.not_mem_nil).symm
  | cons f own ih =>
    rw [List.foldl_cons, ih, names_putField, mem_addName, List.map_cons, List.mem_cons, or_assoc]

/-- **The fields of a record class**, as its own fields are put over those of its bases. -/
theorem foldl_putField (hinherited : (inherited.map Field.name).Nodup)
    (hown : (own.map Field.name).Nodup) :
    own.foldl (fun fs f => putField f fs) inherited = Field.overlay inherited own := by
  induction own generalizing inherited with
  | nil =>
    unfold Field.overlay
    rw [List.filter_nil, List.append_nil]
    exact (List.map_id inherited).symm
  | cons f own ih =>
    rw [List.map_cons, List.nodup_cons] at hown
    rw [List.foldl_cons, ih (nodup_putField hinherited f) hown.2,
      overlay_putField hinherited hown.1]

theorem name_replaced (own : List Field) (g : Field) :
    ((own.find? fun f => f.name = g.name).getD g).name = g.name := by
  cases h : own.find? fun f => f.name = g.name with
  | none => rfl
  | some f =>
    have hf := List.find?_some h
    exact of_decide_eq_true hf

theorem find?_map_of_nodup {r : Field → Field} (hr : ∀ g, (r g).name = g.name)
    (hnodup : (fields.map Field.name).Nodup) (hf : f ∈ fields) :
    (fields.map r).find? (fun g => g.name = f.name) = some (r f) := by
  induction fields with
  | nil => cases hf
  | cons g rest ih =>
    rw [List.map_cons, List.nodup_cons] at hnodup
    rw [List.map_cons, List.find?_cons]
    rcases List.mem_cons.mp hf with rfl | hf
    · rw [decide_eq_true (hr f)]
    · have hne : (r g).name ≠ f.name := by
        rw [hr g]
        exact fun heq => hnodup.1 (heq ▸ List.mem_map.mpr ⟨f, hf, rfl⟩)
      rw [decide_eq_false hne]
      exact ih hnodup.2 hf

/-- A name stands for one field, and it stands for a field if it is inherited or the class's own. -/
theorem nodup_overlay (hinherited : (inherited.map Field.name).Nodup)
    (hown : (own.map Field.name).Nodup) : ((Field.overlay inherited own).map Field.name).Nodup := by
  rw [← foldl_putField hinherited hown]
  exact nodup_foldl_putField hinherited own

theorem mem_names_overlay (hinherited : (inherited.map Field.name).Nodup)
    (hown : (own.map Field.name).Nodup) {name : String} :
    name ∈ (Field.overlay inherited own).map Field.name ↔
      name ∈ inherited.map Field.name ∨ name ∈ own.map Field.name := by
  rw [← foldl_putField hinherited hown]
  exact mem_names_foldl_putField

/-- Fields that lie over inherited ones are not changed by being put over them again. -/
theorem overlay_overlay (hinherited : (inherited.map Field.name).Nodup) (own : List Field) :
    Field.overlay inherited (Field.overlay inherited own) = Field.overlay inherited own := by
  have hfind : ∀ g ∈ inherited, (Field.overlay inherited own).find? (fun f => f.name = g.name) =
      some ((own.find? fun f => f.name = g.name).getD g) := by
    intro g hg
    unfold Field.overlay
    rw [List.find?_append, find?_map_of_nodup (name_replaced own) hinherited hg]
    rfl
  have hreplaced : (inherited.map fun g => (own.find? fun f => f.name = g.name).getD g).filter
      (fun f => f.name ∉ inherited.map Field.name) = [] := by
    refine List.filter_eq_nil_iff.mpr fun f hf hnot => ?_
    obtain ⟨g, hg, rfl⟩ := List.mem_map.mp hf
    refine of_decide_eq_true hnot ?_
    rw [name_replaced]
    exact List.mem_map.mpr ⟨g, hg, rfl⟩
  have hmap : (inherited.map fun g =>
      ((Field.overlay inherited own).find? fun f => f.name = g.name).getD g) =
      inherited.map fun g => (own.find? fun f => f.name = g.name).getD g := by
    refine List.map_congr_left fun g hg => ?_
    rw [hfind g hg]
    rfl
  rw [Field.overlay, hmap, Field.overlay, List.filter_append, hreplaced, List.nil_append,
    List.filter_filter]
  simp only [Bool.and_self]

end Fields

/-! ## Class bodies -/

/-- What the body of a class keeps for a field. -/
def FieldSpec.attribute? (s : FieldSpec) : Option Attribute :=
  match s.source with
  | .bare => none
  | .plain v => some (.value v)
  | .object d m => some (.object d m)

/-- What a body keeps under a name: of several fields of that name, what the last one has. -/
def bodyAttribute? (body : List FieldSpec) (name : String) : Option Attribute :=
  body.reverse.findSome? fun s => if s.name = name then s.attribute? else none

namespace ModelClass

theorem names_hints_ofSpec (id : ModelId) (ancestors : List ModelId) (persistent : Bool)
    (body : List FieldSpec) :
    (ofSpec id ancestors persistent body).hints.map Prod.fst =
      (body.map FieldSpec.name).eraseDups := by
  have hfold : ∀ (body : List FieldSpec) (hints : List (String × FieldType)),
      (body.foldl (fun as f => putPair f.name f.hint as) hints).map Prod.fst =
        (body.map FieldSpec.name).foldl addName (hints.map Prod.fst) := by
    intro body
    induction body with
    | nil => exact fun hints => rfl
    | cons s body ih =>
      intro hints
      rw [List.foldl_cons, ih, names_putPair, List.map_cons, List.foldl_cons]
  exact (hfold body []).trans (foldl_addName _)

theorem nodup_hints_ofSpec (id : ModelId) (ancestors : List ModelId) (persistent : Bool)
    (body : List FieldSpec) :
    ((ofSpec id ancestors persistent body).hints.map Prod.fst).Nodup := by
  rw [names_hints_ofSpec]
  exact nodup_eraseDups _

theorem bodyAttribute?_cons (s : FieldSpec) (body : List FieldSpec) (name : String) :
    bodyAttribute? (s :: body) name =
      (bodyAttribute? body name).or (if s.name = name then s.attribute? else none) := by
  unfold bodyAttribute?
  rw [List.reverse_cons, List.findSome?_append, List.findSome?_singleton]

/-- A body that keeps something for a name has a field of the name. -/
theorem mem_names_of_bodyAttribute? {body : List FieldSpec} {name : String} {a : Attribute}
    (h : bodyAttribute? body name = some a) : name ∈ body.map FieldSpec.name := by
  obtain ⟨s, hs, hfound⟩ := List.exists_of_findSome?_eq_some h
  split at hfound
  · next hname => exact List.mem_map.mpr ⟨s, List.mem_reverse.mp hs, hname⟩
  · cases hfound

theorem getPair?_attributes_ofSpec (id : ModelId) (ancestors : List ModelId) (persistent : Bool)
    (body : List FieldSpec) (name : String) :
    getPair? name (ofSpec id ancestors persistent body).attributes = bodyAttribute? body name := by
  have hput : ∀ (s : FieldSpec) (a : Attribute) (kept : List (String × Attribute)),
      getPair? name (putPair s.name a kept) =
        (if s.name = name then some a else none).or (getPair? name kept) := by
    intro s a kept
    split
    · next h => rw [h, getPair?_putPair_self, Option.some_or]
    · next h => rw [getPair?_putPair_of_ne (Ne.symm h), Option.none_or]
  have hfold : ∀ (body : List FieldSpec) (kept : List (String × Attribute)),
      getPair? name (body.foldl (fun as f =>
        match f.source with
        | .bare => as
        | .plain v => putPair f.name (.value v) as
        | .object d m => putPair f.name (.object d m) as) kept) =
      (bodyAttribute? body name).or (getPair? name kept) := by
    intro body
    induction body with
    | nil => exact fun kept => rfl
    | cons s body ih =>
      intro kept
      rw [List.foldl_cons, ih, bodyAttribute?_cons, Option.or_assoc]
      congr 1
      unfold FieldSpec.attribute?
      cases s.source with
      | bare => rw [ite_self, Option.none_or]
      | plain v => exact hput s (.value v) kept
      | object d m => exact hput s (.object d m) kept
  exact (hfold body []).trans (Option.or_none)

/-! ## Composing a class -/

variable {lineage bases : List ModelClass} {c k : ModelClass} {f : Field}

/-- The field that a class has of a name, where it keeps something under it. -/
def Attribute.field (name : String) (type : FieldType) : Option Attribute → Field
  | none => ⟨name, type, .none, .options {}⟩
  | some (.value v) => ⟨name, type, .value v, .options {}⟩
  | some (.object d m) => ⟨name, type, d, m⟩

theorem eq_of_ownField {persistent : Bool} {name : String} {type : FieldType}
    (h : ownField lineage persistent name type = .ok f) :
    f = Attribute.field name type
      ((attribute? lineage name).or ((inherent? persistent name).map .value)) := by
  unfold ownField at h
  generalize (attribute? lineage name).or ((inherent? persistent name).map .value) = found at h ⊢
  -- only a default that is a value is looked at
  rcases found with _ | ⟨v⟩ | ⟨d, m⟩ <;> dsimp only at h
  · exact (Except.ok.inj h).symm
  · split at h
    · cases h
    · exact (Except.ok.inj h).symm
  · split at h
    · split at h
      · cases h
      · exact (Except.ok.inj h).symm
    · exact (Except.ok.inj h).symm

theorem name_ownField {persistent : Bool} {name : String} {type : FieldType}
    (h : ownField lineage persistent name type = .ok f) : f.name = name := by
  rw [eq_of_ownField h]
  rcases (attribute? lineage name).or ((inherent? persistent name).map .value) with
    _ | ⟨v⟩ | ⟨d, m⟩ <;> rfl

/-- A field object that the class itself keeps says what the field is. -/
theorem ownField_of_object {persistent : Bool} {name : String} {type : FieldType} {d : FieldDefault}
    {m : Mapping} (h : ownField (c :: bases) persistent name type = .ok f)
    (hc : getPair? name c.attributes = some (.object d m)) : f = ⟨name, type, d, m⟩ := by
  have hfound : attribute? (c :: bases) name = some (.object d m) := by
    unfold attribute?
    rw [List.findSome?_cons, hc]
  rw [eq_of_ownField h, hfound]
  rfl

/-! ### Inherited fields -/

theorem inheritedFields_cons (b : ModelClass) (bases : List ModelClass) :
    inheritedFields (b :: bases) =
      (b.fields.getD []).foldl (fun fs f => putField f fs) (inheritedFields bases) := by
  unfold inheritedFields
  rw [List.reverse_cons, List.foldl_append]
  rfl

theorem nodup_inheritedFields (bases : List ModelClass) :
    ((inheritedFields bases).map Field.name).Nodup := by
  induction bases with
  | nil => exact List.nodup_nil
  | cons b bases ih =>
    rw [inheritedFields_cons]
    exact nodup_foldl_putField ih _

/-- No field of a base class is lost, and no others are inherited. -/
theorem mem_names_inheritedFields {name : String} :
    name ∈ (inheritedFields bases).map Field.name ↔
      ∃ b ∈ bases, ∃ fs, b.fields = some fs ∧ name ∈ fs.map Field.name := by
  induction bases with
  | nil => simp [inheritedFields]
  | cons b bases ih =>
    rw [inheritedFields_cons, mem_names_foldl_putField, ih]
    constructor
    · rintro (⟨b', hb', h⟩ | h)
      · exact ⟨b', List.mem_cons_of_mem b hb', h⟩
      · cases hb : b.fields with
        | none =>
          rw [hb] at h
          cases h
        | some fs =>
          rw [hb] at h
          exact ⟨b, List.mem_cons_self, fs, hb, h⟩
    · rintro ⟨b', hb', fs, hfs, h⟩
      rcases List.mem_cons.mp hb' with rfl | hb'
      · rw [hfs]
        exact Or.inr h
      · exact Or.inl ⟨b', hb', fs, hfs, h⟩

/-! ### The composed class -/

/-- What composing makes of a class. -/
structure Composed (bases : List ModelClass) (c k : ModelClass) (own : List Field) : Prop where
  fields : k.fields = some (Field.overlay (inheritedFields bases) own)
  names : own.map Field.name = c.hints.map Prod.fst
  mapping : ∀ f ∈ own, ∀ d m, getPair? f.name c.attributes = some (.object d m) → f.mapping = m
  id : k.id = c.id
  ancestors : k.ancestors = c.ancestors
  hints : k.hints = c.hints

theorem names_own {hints : List (String × FieldType)} {persistent : Bool} {own : List Field}
    (h : (hints.mapM fun e => ownField lineage persistent e.1 e.2) = .ok own) :
    own.map Field.name = hints.map Prod.fst := by
  induction hints generalizing own with
  | nil =>
    cases h
    rfl
  | cons e hints ih =>
    obtain ⟨f, fs, hf, hfs, rfl⟩ := Result.mapM_cons_eq_ok.mp h
    rw [List.map_cons, List.map_cons, ih hfs, name_ownField hf]

/-- A class that is composed is the class with its own fields put to those of its bases; it makes
instances of these if it makes any. -/
theorem exists_own_of_compose {e : Option Error} (h : compose bases c = .ok (k, e)) :
    ∃ own made, (c.hints.mapM fun e => ownField (c :: bases) c.persistent e.1 e.2) = .ok own ∧
      (made = some (own.foldl (fun fs f => putField f fs) (inheritedFields bases)) ∨
        made = c.constructor) ∧
      k = { c with
        fields := some (own.foldl (fun fs f => putField f fs) (inheritedFields bases)),
        attributes := settle (c :: bases) own c.attributes, constructor := made } := by
  obtain ⟨own, hown, h⟩ := Result.bind_eq_ok.mp h
  dsimp only at h
  split at h
  · cases h
  · split at h
    · cases h
      exact ⟨own, _, hown, .inl rfl, rfl⟩
    · cases h
      exact ⟨own, _, hown, .inr rfl, rfl⟩

/-- A class that is composed has the fields of its bases with its own fields over them. -/
theorem compose_eq_ok {e : Option Error} (hhints : (c.hints.map Prod.fst).Nodup)
    (h : compose bases c = .ok (k, e)) : ∃ own, Composed bases c k own := by
  obtain ⟨own, made, hown, -, rfl⟩ := exists_own_of_compose h
  have hnames := names_own hown
  have hfields := foldl_putField (nodup_inheritedFields bases) (hnames ▸ hhints)
  refine ⟨own, congrArg some hfields, hnames, ?_, rfl, rfl, rfl⟩
  intro f hf d m hkept
  obtain ⟨p, -, hp⟩ := Result.exists_mem_of_mapM_eq_ok hown hf
  rw [name_ownField hp] at hkept
  rw [ownField_of_object hp hkept]

/-- The fields of a class that is composed from its body: each name of the body stands for one field
of its own, which is mapped as its field object says, and all fields are its own or inherited. -/
theorem Composed.fields_ofSpec {id : ModelId} {ancestors : List ModelId} {persistent : Bool}
    {body : List FieldSpec} {own : List Field}
    (h : Composed bases (ofSpec id ancestors persistent body) k own) :
    own.map Field.name = (body.map FieldSpec.name).eraseDups ∧
      (∀ f ∈ own, ∀ d m, bodyAttribute? body f.name = some (.object d m) → f.mapping = m) ∧
      ((Field.overlay (inheritedFields bases) own).map Field.name).Nodup ∧
      ∀ name, name ∈ (Field.overlay (inheritedFields bases) own).map Field.name ↔
        name ∈ body.map FieldSpec.name ∨
          ∃ b ∈ bases, ∃ fs, b.fields = some fs ∧ name ∈ fs.map Field.name := by
  have hinherited := nodup_inheritedFields bases
  have hnames : own.map Field.name = (body.map FieldSpec.name).eraseDups := by
    rw [h.names]
    exact names_hints_ofSpec _ _ _ body
  have hown : (own.map Field.name).Nodup := by
    rw [hnames]
    exact nodup_eraseDups _
  refine ⟨hnames, ?_, nodup_overlay hinherited hown, fun name => ?_⟩
  · intro f hf d m hkept
    refine h.mapping f hf d m ?_
    rw [← hkept]
    exact getPair?_attributes_ofSpec _ _ _ body f.name
  · rw [mem_names_overlay hinherited hown, hnames, List.mem_eraseDups, or_comm,
      mem_names_inheritedFields]

end ModelClass

end RelMap
