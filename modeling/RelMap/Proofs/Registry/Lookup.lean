import RelMap.Proofs.Registry.History

/-!
# Looking columns up

A column is looked up by its name or by the name of its field, in one search.  A column that joins
a model is compared with the others name with name and field with field, but not crosswise: the name
of one column may be the field of another.  Both go by that text then, and the search ends at the
first of them (`Registry.lookup_finds_iff`).
-/

namespace RelMap

/-- Only what passes for a text is the same key as the text. -/
theorem Value.key?_eq_text_iff {v : Value} {s : String} :
    v.key? = some [.text s] ↔ v.textOf? = some s := by
  constructor
  · intro h
    cases v with
    | real x => cases x <;> simp [key?, mark?, Real.mark?] at h
    | decimal d => cases d <;> simp [key?, mark?, Decimal.mark?] at h
    | bytes form content => cases form <;> simp [key?, mark?] at h
    | moment m =>
      simp only [key?, mark?, Option.map_some, Option.some.injEq, List.cons.injEq, and_true] at h
      unfold Moment.mark at h
      split at h <;> cases h
    | tuple items => simp [key?] at h
    | text _ | textConstant _ _ | sqlType _ => simpa [key?, mark?, textOf?] using h
    | _ => simp [key?, mark?, textOf?, intOf?] at h
  · exact key?_of_textOf?

namespace Column

variable {c d : Column} {v : Value} {x : String}

/-- Is the text the name of the column or the name of its field? -/
def GoesBy (c : Column) (x : String) : Prop := c.name.text = x ∨ c.fieldName = .ok x

theorem fieldName_eq_ok_iff : c.fieldName = .ok x ↔ c.field.textOf? = some x := by
  unfold fieldName
  cases c.field.textOf? <;> simp

theorem answersTo_iff (hv : v.textOf? = some x) : c.answersTo v = true ↔ c.GoesBy x := by
  have hname : c.name.toValue.key? = some [.text c.name.text] :=
    Value.key?_of_textOf? c.name.textOf?_toValue
  have hfield : c.field.key? = some [.text x] ↔ c.fieldName = .ok x := by
    rw [Value.key?_eq_text_iff, fieldName_eq_ok_iff]
  simp only [answersTo, Value.sameKey, Value.key?_of_textOf? hv, hname, Bool.or_eq_true,
    Bool.and_eq_true, beq_iff_eq, GoesBy, ← hfield]
  constructor
  · rintro (⟨-, h⟩ | ⟨-, h⟩)
    · cases h
      exact .inl rfl
    · exact .inr h
  · rintro (rfl | h)
    · exact .inl ⟨rfl, rfl⟩
    · exact .inr ⟨by rw [h]; rfl, h⟩

namespace Compatible

variable {before behind : List Column}

theorem isApart_of_mem_before (h : Compatible (before ++ c :: behind)) (hd : d ∈ before) :
    d.IsApart c :=
  (List.pairwise_append.mp h.apart).2.2 d hd c List.mem_cons_self

theorem name_ne_of_mem_before (h : Compatible (before ++ c :: behind)) (hd : d ∈ before) :
    d.name.text ≠ c.name.text :=
  (h.isApart_of_mem_before hd).name_ne

theorem fieldName_ne_of_mem_before (h : Compatible (before ++ c :: behind)) (hd : d ∈ before)
    (hc : c.fieldName = .ok x) : d.fieldName ≠ .ok x := by
  intro hdx
  have heq := h.eq_of_fieldName (List.mem_append_left _ hd)
    (List.mem_append_right _ List.mem_cons_self) hdx hc
  exact h.name_ne_of_mem_before hd (congrArg (fun c => c.name.text) heq)

end Compatible

end Column

namespace Entity

open Column (Compatible)

variable {e : Entity} {c : Column} {v : Value} {x : String}

theorem column?_eq_none_iff (hv : v.textOf? = some x) :
    e.column? v = none ↔ ∀ c ∈ e.columns, ¬ c.GoesBy x := by
  simp only [column?, List.find?_eq_none, Column.answersTo_iff hv]

/-- What is found by a text goes by it. -/
theorem goesBy_of_column? (hv : v.textOf? = some x) (h : e.column? v = some c) :
    c ∈ e.columns ∧ c.GoesBy x :=
  ⟨List.mem_of_find?_eq_some h,
    (Column.answersTo_iff hv).mp (List.find?_some (p := fun d : Column => d.answersTo v) h)⟩

/-- A column is found by a text that it goes by exactly if no column before it does. -/
theorem column?_eq_some_iff {before behind : List Column} (h : Compatible e.columns)
    (hsplit : e.columns = before ++ c :: behind) (hv : v.textOf? = some x) (hc : c.GoesBy x) :
    e.column? v = some c ↔ ∀ d ∈ before, ¬ d.GoesBy x := by
  have hanswers : c.answersTo v = true := (Column.answersTo_iff hv).mpr hc
  rw [hsplit] at h
  rw [column?, hsplit, List.find?_append,
    List.find?_cons_of_pos (p := fun d : Column => d.answersTo v) hanswers]
  constructor
  · intro hfound d hd hdx
    cases hbefore : before.find? fun d => d.answersTo v with
    | none =>
      exact List.find?_eq_none.mp hbefore d hd ((Column.answersTo_iff hv).mpr hdx)
    | some d' =>
      -- the column itself would stand before itself
      rw [hbefore, Option.some_or, Option.some.injEq] at hfound
      subst hfound
      exact h.name_ne_of_mem_before (List.mem_of_find?_eq_some hbefore) rfl
  · intro hnone
    have hbefore : (before.find? fun d => d.answersTo v) = none :=
      List.find?_eq_none.mpr fun d hd hdv => hnone d hd ((Column.answersTo_iff hv).mp hdv)
    rw [hbefore, Option.none_or]

/-- Every column is found by all that it goes by exactly if no column has the name of another's
field. -/
theorem column?_complete_iff (h : Compatible e.columns) :
    (∀ c ∈ e.columns, ∀ v x, v.textOf? = some x → c.GoesBy x → e.column? v = some c) ↔
      ∀ c ∈ e.columns, ∀ d ∈ e.columns, c.fieldName = .ok d.name.text → c = d := by
  constructor
  · intro hall c hc d hd hcross
    have hfound := hall c hc (.text d.name.text) _ rfl (.inr hcross)
    rw [hall d hd (.text d.name.text) _ rfl (.inl rfl)] at hfound
    exact (Option.some.inj hfound).symm
  · intro hcross c hc v x hv hcx
    cases hfound : e.column? v with
    | none => exact absurd hcx ((column?_eq_none_iff hv).mp hfound c hc)
    | some d =>
      obtain ⟨hd, hdx⟩ := goesBy_of_column? hv hfound
      congr 1
      -- two columns go by the text: by name or by field both, or crosswise
      rcases hcx with rfl | hcx <;> rcases hdx with hdx | hdx
      · exact h.eq_of_name hd hc hdx
      · exact hcross d hd c hc hdx
      · subst hdx
        exact (hcross c hc d hd hcx).symm
      · exact h.eq_of_fieldName hd hc hdx hcx

end Entity

namespace Registry

/-- **What looking a column up finds.**  Whatever was declared of a registered model, nothing is
found by a text exactly if it is neither the name of a column nor that of a column's field, and what
is found goes by the text.  A column is found by its name exactly if the name is not the field of a
column before it, and by its field exactly if this is not the name of a column before it.  So all
columns of the model are found by both exactly if no column stands for a field that has the name of
another column. -/
theorem lookup_finds_iff {r : Registry} (hr : r.Declared) {m : ModelId} {e : Entity}
    (he : r.entity m = .ok e) :
    (∀ v x, v.textOf? = some x →
      (e.column? v = none ↔ ∀ c ∈ e.columns, ¬ c.GoesBy x) ∧
        ∀ c, e.column? v = some c → c ∈ e.columns ∧ c.GoesBy x) ∧
      (∀ before c behind, e.columns = before ++ c :: behind →
        (e.column? c.name.toValue = some c ↔ ∀ d ∈ before, d.fieldName ≠ .ok c.name.text) ∧
          ∀ field, c.fieldName = .ok field →
            (e.column? c.field = some c ↔ ∀ d ∈ before, d.name.text ≠ field)) ∧
      ((∀ c ∈ e.columns, ∀ v x, v.textOf? = some x → c.GoesBy x → e.column? v = some c) ↔
        ∀ c ∈ e.columns, ∀ d ∈ e.columns, c.fieldName = .ok d.name.text → c = d) := by
  have hcompatible := hr.compatible_of_entity he
  refine ⟨?_, ?_, Entity.column?_complete_iff hcompatible⟩
  · intro v x hv
    exact ⟨Entity.column?_eq_none_iff hv, fun c => Entity.goesBy_of_column? hv⟩
  · intro before c behind hsplit
    have hbefore := hcompatible
    rw [hsplit] at hbefore
    constructor
    · rw [Entity.column?_eq_some_iff hcompatible hsplit c.name.textOf?_toValue (.inl rfl)]
      refine forall₂_congr fun d hd => not_congr ?_
      exact or_iff_right (hbefore.name_ne_of_mem_before hd)
    · intro field hfield
      rw [Entity.column?_eq_some_iff hcompatible hsplit (Column.fieldName_eq_ok_iff.mp hfield)
        (.inr hfield)]
      refine forall₂_congr fun d hd => not_congr ?_
      exact or_iff_left (hbefore.fieldName_ne_of_mem_before hd hfield)

/-! ### A post with crossed names -/

def postModel : ModelId := ⟨"Post", 1⟩

def titleColumn : Column :=
  ⟨.plain "title", .text, .bool true, .bool false, .bool false, .text "heading", .null⟩

/-- The column that has the name of the other's field. -/
def headingColumn : Column :=
  ⟨.plain "heading", .text, .bool true, .bool false, .bool false, .text "title", .null⟩

def posts : Registry := ⟨[(postModel, ⟨.plain "post", [titleColumn, headingColumn], true⟩)]⟩

theorem posts_declared : posts.Declared := by
  have htitle : Column.make (.text "title") .text (.bool true) (.bool false) (.bool false)
      (.text "heading") .null = .ok titleColumn := rfl
  have hheading : Column.make (.text "heading") .text (.bool true) (.bool false) (.bool false)
      (.text "title") .null = .ok headingColumn := rfl
  have hfirst : Registry.empty.addColumn postModel titleColumn =
      .ok ⟨[(postModel, ⟨.plain "post", [titleColumn], false⟩)]⟩ := rfl
  have hsecond := Declared.addColumn (m := postModel) (.addColumn .empty htitle hfirst) hheading rfl
  exact hsecond.register postModel

theorem lookup_finds_iff_posts : ∃ e, posts.entity postModel = .ok e ∧
    e.column? titleColumn.name.toValue = some titleColumn ∧
    e.column? headingColumn.name.toValue ≠ some headingColumn := by
  have hentity : posts.entity postModel =
      .ok ⟨postModel, .plain "post", [titleColumn, headingColumn]⟩ := rfl
  obtain ⟨-, hfinds, -⟩ := lookup_finds_iff posts_declared hentity
  refine ⟨_, hentity, ?_, ?_⟩
  · exact (hfinds [] titleColumn [headingColumn] rfl).1.mpr nofun
  · intro hfound
    exact (hfinds [titleColumn] headingColumn [] rfl).1.mp hfound titleColumn
      List.mem_cons_self rfl

/-- Not every column is found by its name: the title of a post stands for the field that the other
column has for its name. -/
theorem lookup_not_always_finds :
    ¬ ∀ (r : Registry) (m : ModelId) (e : Entity), r.Declared → r.entity m = .ok e →
      ∀ c ∈ e.columns, e.column? c.name.toValue = some c ∧ e.column? c.field = some c := by
  intro hall
  have hfound := (hall posts postModel _ posts_declared rfl headingColumn
    (List.mem_cons_of_mem _ List.mem_cons_self)).1
  have hname : "title" = "heading" := congrArg (fun c => c.name.text) (Option.some.inj hfound)
  exact absurd hname (by decide)

end Registry

end RelMap
