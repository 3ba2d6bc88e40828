import Mathlib.Logic.Relation
import RelMap.Proofs.Model.Mapped

/-!
# Columns that join a registry

Mapping the fields of a model adds one column after the other, until it ends or fails
(`Registry.adds_collectFields`).  What is added to a model that is not registered is not seen
(`Registry.seenAs_of_adds`), what a registry has stays in it (`Registry.keeps_of_adds`), and where the
names of all columns are taken nothing is added (`Registry.collectFields_of_isTaken`).
-/

namespace RelMap

open Relation (ReflTransGen)

/-! ## One column after the other -/

namespace Registry

variable {r r' : Registry} {m : ModelId}

/-- A column joins those of a model. -/
def Adds (m : ModelId) (r r' : Registry) : Prop := ∃ c, r.addColumn m c = .ok r'

/-- A field that is opted out adds nothing, and one that is mapped adds the column that its options
ask for. -/
theorem collectField_eq_ok {f : Field} {hint : FieldType}
    (h : r.collectField m f hint = .ok r') :
    r' = r ∨ ∃ o c, f.mapping = .options o ∧ o.column (.text f.name) hint = .ok c ∧
      r.addColumn m c = .ok r' := by
  unfold collectField at h
  split at h
  · cases h
    exact Or.inl rfl
  · cases h
  · next o ho =>
    obtain ⟨⟨r'', c⟩, hcollect, rfl⟩ := Result.map_eq_ok.mp h
    obtain ⟨c', hc', hcollect⟩ := Result.bind_eq_ok.mp hcollect
    obtain ⟨r₁, hadd, hcollect⟩ := Result.bind_eq_ok.mp hcollect
    cases hcollect
    exact Or.inr ⟨o, c, ho, hc', hadd⟩

/-- Mapping fields adds columns, whether it ends or fails. -/
theorem adds_collectFields (r : Registry) (m : ModelId) (hint : Field → FieldType)
    (fields : List Field) : ReflTransGen (Adds m) r (r.collectFields m hint fields).1 := by
  induction fields generalizing r with
  | nil => exact .refl
  | cons f rest ih =>
    unfold collectFields
    split
    · next r' hf =>
      rcases collectField_eq_ok hf with rfl | ⟨o, c, -, -, hadd⟩
      · exact ih r'
      · exact .head ⟨c, hadd⟩ (ih r')
    · exact .refl

end Registry

/-! ## What is seen of a registry -/

namespace Registry

variable {r r' r'' : Registry} {m : ModelId}

/-- The second registry answers as the first does: which models are registered, in which order, and
what is known of each. -/
structure SeenAs (r r' : Registry) : Prop where
  models : r'.models = r.models
  isRegistered : ∀ n, r'.isRegistered n = r.isRegistered n
  entity : ∀ n, r'.entity n = r.entity n

namespace SeenAs

theorem refl (r : Registry) : r.SeenAs r := ⟨rfl, fun _ => rfl, fun _ => rfl⟩

theorem trans (h : r.SeenAs r') (h' : r'.SeenAs r'') : r.SeenAs r'' :=
  ⟨h'.models.trans h.models, fun n => (h'.isRegistered n).trans (h.isRegistered n),
    fun n => (h'.entity n).trans (h.entity n)⟩

end SeenAs

/-- Slots of models that are not registered do not count among the registered ones. -/
theorem filter_putSlot {s : Slot} {slots : List (ModelId × Slot)} (hs : s.registered = false)
    (h : ∀ e, slots.find? (fun e => e.1 = m) = some e → e.2.registered = false) :
    (putSlot m s slots).filter (fun e => e.2.registered) =
      slots.filter (fun e => e.2.registered) := by
  induction slots with
  | nil => simp [putSlot, hs]
  | cons e rest ih =>
    by_cases he : e.1 = m
    · have hold := h e (by simp [he])
      simp [putSlot, he, hs, hold]
    · have hrest := ih fun e' he' => h e' (by simpa [he] using he')
      simp [putSlot, he, List.filter_cons, hrest]

/-- What is declared of a model that is not registered is not seen. -/
theorem seenAs_put {s : Slot} (h : (r.slot m).registered = false) (hs : s.registered = false) :
    r.SeenAs (r.put m s) := by
  have hslot : ∀ n, ((r.put m s).slot n).registered = (r.slot n).registered := by
    intro n
    rw [slot_put]
    split
    · next hn => rw [hs, ← hn, h]
    · rfl
  refine ⟨?_, fun n => ?_, fun n => ?_⟩
  · unfold models put
    rw [filter_putSlot hs]
    intro e he
    rwa [slot, slot?, he] at h
  · rw [isRegistered_eq, isRegistered_eq, hslot]
  · rw [entity_eq, entity_eq, hslot]
    split
    · next hn =>
      rw [slot_put_of_ne]
      rintro rfl
      rw [h] at hn
      cases hn
    · rfl

/-- Columns that join an unregistered model leave it so and are not seen. -/
theorem seenAs_of_adds (h : (r.slot m).registered = false) (hadds : ReflTransGen (Adds m) r r') :
    (r'.slot m).registered = false ∧ r.SeenAs r' := by
  induction hadds with
  | refl => exact ⟨h, .refl r⟩
  | @tail r₁ r₂ _ hadd ih =>
    obtain ⟨hnew, hseen⟩ := ih
    obtain ⟨c, hadd⟩ := hadd
    unfold addColumn at hadd
    dsimp only at hadd
    split at hadd
    · cases hadd
    · cases hadd
      rw [slot_put_self]
      exact ⟨hnew, hseen.trans (seenAs_put hnew hnew)⟩

end Registry

/-! ## Names that are taken -/

/-- The name of a column does not depend on the hint. -/
theorem ColumnOptions.name_column {o : ColumnOptions} {field : Value} {hint hint' : FieldType}
    {c c' : Column} (h : o.column field hint = .ok c) (h' : o.column field hint' = .ok c') :
    c.name = c'.name := by
  obtain ⟨t, -, h⟩ := Result.bind_eq_ok.mp h
  obtain ⟨t', -, h'⟩ := Result.bind_eq_ok.mp h'
  obtain ⟨n, hn, h⟩ := Result.bind_eq_ok.mp h
  obtain ⟨n', hn', h'⟩ := Result.bind_eq_ok.mp h'
  cases h
  cases h'
  exact Except.ok.inj (hn.symm.trans hn')

/-- Whatever the hint of the field is, its column has the name of one of some columns. -/
def Field.IsTaken (columns : List Column) (f : Field) : Prop :=
  ∀ o hint c, f.mapping = .options o → o.column (.text f.name) hint = .ok c →
    ∃ d ∈ columns, d.name = c.name

theorem Field.IsTaken.mono {columns columns' : List Column} {f : Field} (h : f.IsTaken columns)
    (hsub : columns ⊆ columns') : f.IsTaken columns' := by
  intro o hint c hmapping hc
  obtain ⟨d, hd, hname⟩ := h o hint c hmapping hc
  exact ⟨d, hsub hd, hname⟩

namespace Registry

variable {r r' r'' : Registry} {m : ModelId}

/-- Fields that were mapped have taken the names of their columns. -/
theorem isTaken_of_collectFields {hint : Field → FieldType} {fields : List Field}
    (h : r.collectFields m hint fields = (r', none)) :
    ∀ f ∈ fields, f.IsTaken (r'.slot m).columns := by
  obtain ⟨cs, hcs, hcolumns⟩ := columns_of_collectFields h
  intro f hf o hint' c hmapping hc
  have hmapped : f ∈ fields.filter Field.isMapped := by
    rw [List.mem_filter, Field.isMapped, hmapping]
    exact ⟨hf, rfl⟩
  obtain ⟨i, hi, hget⟩ := List.getElem_of_mem hmapped
  have hlength : i < cs.length := hcs.length_eq ▸ hi
  obtain ⟨o', ho', hd⟩ := hcs.get hi hlength
  change (_ : List Field)[i].mapping = _ at ho'
  change o'.column (.text (_ : List Field)[i].name) _ = _ at hd
  rw [hget] at ho' hd
  cases hmapping.symm.trans ho'
  refine ⟨cs[i], ?_, ColumnOptions.name_column hd hc⟩
  rw [hcolumns]
  exact List.mem_append_right _ (List.getElem_mem hlength)

/-- A column whose name is taken is refused. -/
theorem addColumn_of_name {c d : Column} (hd : d ∈ (r.slot m).columns) (hname : d.name = c.name) :
    ∃ e, r.addColumn m c = .error e := by
  apply addColumn_of_not_apart
  intro hall
  exact (hall d hd).name_ne (congrArg Name.text hname)

/-- Where all names are taken, mapping the fields declares nothing. -/
theorem collectFields_of_isTaken {hint : Field → FieldType} {fields : List Field}
    (h : ∀ f ∈ fields, f.IsTaken (r.slot m).columns) : (r.collectFields m hint fields).1 = r := by
  induction fields with
  | nil => rfl
  | cons f rest ih =>
    rw [List.forall_mem_cons] at h
    unfold collectFields
    split
    · next r' hf =>
      rcases collectField_eq_ok hf with rfl | ⟨o, c, ho, hc, hadd⟩
      · exact ih h.2
      · obtain ⟨d, hd, hname⟩ := h.1 o _ c ho hc
        obtain ⟨e, he⟩ := addColumn_of_name hd hname
        cases he.symm.trans hadd
    · rfl

/-! ## What a registry keeps -/

/-- The second registry has at least the columns of the first. -/
def Keeps (r r' : Registry) : Prop := ∀ m, (r.slot m).columns ⊆ (r'.slot m).columns

theorem Keeps.refl (r : Registry) : r.Keeps r := fun _ => List.Subset.refl _

theorem Keeps.trans (h : r.Keeps r') (h' : r'.Keeps r'') : r.Keeps r'' :=
  fun m => List.Subset.trans (h m) (h' m)

/-- Only clearing a registry takes columns away. -/
theorem keeps_after {d : Declaration} (h : d.isClear = false) : r.Keeps (r.after d) := by
  have haccept : ∀ cs columns : List Column, columns ⊆ cs.foldl Column.accept columns := by
    intro cs
    induction cs with
    | nil => exact List.Subset.refl
    | cons c cs ih =>
      intro columns
      refine List.Subset.trans ?_ (ih _)
      unfold Column.accept
      split
      · exact List.subset_append_left columns [c]
      · exact List.Subset.refl columns
  intro m
  rw [slot_after, Slot.columns_after _ h]
  exact haccept _ _

theorem keeps_declare {d : Declaration} (h : d.isClear = false) (hd : r.declare d = .ok r') :
    r.Keeps r' := by
  rw [← after_of_declare hd]
  exact keeps_after h

theorem keeps_of_adds (h : ReflTransGen (Adds m) r r') : r.Keeps r' := by
  induction h with
  | refl => exact .refl r
  | tail _ hadd ih =>
    obtain ⟨c, hadd⟩ := hadd
    exact ih.trans (keeps_declare (d := .addColumn m c) rfl hadd)

theorem keeps_collectEntity {table : Value} {byInstance : Bool} {events : List Event}
    (h : r.collectEntity m table byInstance = .ok (r', events)) : r.Keeps r' := by
  unfold collectEntity at h
  split at h
  · cases h
  · obtain ⟨r₁, hset, h⟩ := Result.bind_eq_ok.mp h
    have hregister : (r₁.register m).1 = r' := congrArg Prod.fst (Except.ok.inj h)
    exact (keeps_declare (d := .setTable m _) rfl hset).trans
      (keeps_declare (d := .register m) rfl (congrArg Except.ok hregister))

end Registry

end RelMap
