import RelMap.Proofs.Persistence.Saving
import RelMap.Proofs.Query.Target

/-!
# Which queries are built

A query is refused as incomplete if it has no kind, no table or not the parts that statements of its
kind are made of; else it is refused as invalid if its kind is none, if it has parts that such
statements do not have, if it wants columns back from a dialect that returns none, or if it mentions
a column that its model does not have.  Every other query is built (`Query.build_admission`).

`Result.Judges` says of a check which inputs it refuses for which of the two reasons.  A check for
completeness comes first, so the rules put the reasons of several checks together in that order.
-/

namespace RelMap

variable {α β : Type} {I I' V V' : Prop}

namespace Result

/-- A check refuses what is incomplete for that reason and, of the rest, what is invalid for that
reason; nothing else fails. -/
def Judges (incomplete invalid : Prop) : Result α → Prop
  | .ok _ => ¬ incomplete ∧ ¬ invalid
  | .error e => e.kind = .incompleteQuery ∧ incomplete ∨
      e.kind = .invalidQuery ∧ ¬ incomplete ∧ invalid

namespace Judges

theorem congr {x : Result α} (h : x.Judges I V) (hI : I ↔ I') (hV : V ↔ V') : x.Judges I' V' :=
  propext hI ▸ propext hV ▸ h

theorem ok (a : α) : Judges False False (.ok a) := ⟨id, id⟩

theorem invalid {e : Error} (he : e.kind = .invalidQuery) (hV : V) :
    Judges (α := α) False V (.error e) :=
  .inr ⟨he, id, hV⟩

/-- What comes after a check that does not look for completeness does not look for it either. -/
theorem bind {x : Result α} {f : α → Result β} (hx : x.Judges I V)
    (hf : ∀ a, (f a).Judges False V') : Judges I (V ∨ V') (x >>= f) := by
  cases x with
  | ok a =>
    refine (hf a).congr ?_ ?_
    · exact ⟨False.elim, hx.1⟩
    · exact (or_iff_right hx.2).symm
  | error e =>
    rcases hx with ⟨he, hI⟩ | ⟨he, hI, hV⟩
    · exact .inl ⟨he, hI⟩
    · exact .inr ⟨he, hI, .inl hV⟩

/-- A check for a missing part comes before the others. -/
theorem missing {c : Prop} [Decidable c] {e : Error} (he : e.kind = .incompleteQuery)
    {f : α → Result β} {y : Result β} (hy : ¬ c → y.Judges I V) :
    Judges (c ∨ I) V (if c then .error e >>= f else y) := by
  split
  · next hc => exact .inl ⟨he, .inl hc⟩
  · next hc => exact (hy hc).congr (or_iff_right hc).symm .rfl

/-- A check for a fault of a part comes after those for missing parts. -/
theorem faulty {c : Prop} [Decidable c] {e : Error} (he : e.kind = .invalidQuery)
    {f : α → Result β} {y : Result β} (hy : y.Judges False V) :
    Judges False (c ∨ V) (if c then .error e >>= f else y) := by
  split
  · next hc => exact .inr ⟨he, id, .inl hc⟩
  · next hc => exact hy.congr .rfl (or_iff_right hc).symm

theorem forM {f : α → Result Unit} {P : α → Prop} {xs : List α}
    (h : ∀ x ∈ xs, (f x).Judges False (P x)) : Judges False (∃ x ∈ xs, P x) (xs.forM f) := by
  induction xs with
  | nil => exact (ok ()).congr .rfl (by simp)
  | cons x xs ih =>
    have hxs := ih fun y hy => h y (List.mem_cons_of_mem x hy)
    exact ((h x List.mem_cons_self).bind fun _ => hxs).congr .rfl (by simp)

theorem incomplete_iff {x : Result α} (h : x.Judges I V) :
    (∃ e, x = .error e ∧ e.kind = .incompleteQuery) ↔ I := by
  constructor
  · rintro ⟨e, rfl, he⟩
    rcases h with ⟨-, hI⟩ | ⟨he', -⟩
    · exact hI
    · cases he.symm.trans he'
  · intro hI
    cases x with
    | ok a => exact absurd hI h.1
    | error e =>
      rcases h with ⟨he, -⟩ | ⟨-, hnot, -⟩
      · exact ⟨e, rfl, he⟩
      · exact absurd hI hnot

theorem invalid_iff {x : Result α} (h : x.Judges I V) :
    (∃ e, x = .error e ∧ e.kind = .invalidQuery) ↔ ¬ I ∧ V := by
  constructor
  · rintro ⟨e, rfl, he⟩
    rcases h with ⟨he', -⟩ | ⟨-, hI, hV⟩
    · cases he.symm.trans he'
    · exact ⟨hI, hV⟩
  · rintro ⟨hI, hV⟩
    cases x with
    | ok a => exact absurd hV h.2
    | error e =>
      rcases h with ⟨-, hnot⟩ | ⟨he, -, -⟩
      · exact absurd hnot hI
      · exact ⟨e, rfl, he⟩

theorem ok_iff {x : Result α} (h : x.Judges I V) : (∃ a, x = .ok a) ↔ ¬ I ∧ ¬ V := by
  constructor
  · rintro ⟨a, rfl⟩
    exact h
  · rintro ⟨hI, hV⟩
    cases x with
    | ok a => exact ⟨a, rfl⟩
    | error e =>
      rcases h with ⟨-, hnot⟩ | ⟨-, -, hnot⟩
      · exact absurd hnot hI
      · exact absurd hnot hV

end Judges

end Result

open Result

theorem Value.isNull_iff {v : Value} : v.isNull = true ↔ v = .null := by
  cases v <;> simp [isNull]

namespace Query

variable (q : Query) {catalog : Catalog} {d : Dialect}

/-! ## Parts -/

/-- A part is missing without which there is no statement of the kind. -/
def Lacks : Kind → Prop
  | .select => q.columns = []
  | .insert => q.values = [] ∧ q.defaultValues.truthy = false
  | .update => q.assignments = []
  | .delete => False

def HasPaging : Prop := q.ordering ≠ [] ∨ q.limit ≠ .null ∨ q.offset ≠ .null

/-- There is a part that statements of the kind do not have. -/
def Strays : Kind → Prop
  | .select => q.values ≠ [] ∨ q.defaultValues.truthy = true ∨ q.assignments ≠ [] ∨
      q.returning ≠ []
  | .insert => q.columns ≠ [] ∨ q.assignments ≠ [] ∨ q.conditions ≠ [] ∨ q.HasPaging
  | .update => q.columns ≠ [] ∨ q.values ≠ [] ∨ q.defaultValues.truthy = true ∨ q.HasPaging
  | .delete => q.columns ≠ [] ∨ q.values ≠ [] ∨ q.defaultValues.truthy = true ∨
      q.assignments ≠ [] ∨ q.HasPaging

/-- The query has no kind, no table or not what statements of its kind are made of. -/
def IsIncomplete : Prop :=
  q.kind = .null ∨ q.table = .null ∨ ∃ k, Kind.ofValue? q.kind = some k ∧ q.Lacks k

/-- A column is named somewhere in the query, by the value. -/
def Mentions (v : Value) : Prop :=
  (v ∈ q.columns ∧ v.textOf? ≠ some "*") ∨ (∃ c ∈ q.values, c.1 = v) ∨
    (∃ c ∈ q.assignments, c.1 = v) ∨ (∃ c ∈ q.conditions, c.column = v) ∨
    (∃ o ∈ q.ordering, o.column = v) ∨ v ∈ q.returning

/-- The query mentions something that is no column of the entity. -/
def MentionsOther (e : Entity) : Prop :=
  ∃ v, q.Mentions v ∧ ∀ t ∈ e.columnNames, v.textOf? ≠ some t

/-- The parts of the query do not go together, or not with the dialect or the model. -/
def IsInvalid (catalog : Catalog) (d : Dialect) : Prop :=
  Kind.ofValue? q.kind = none ∨ (∃ k, Kind.ofValue? q.kind = some k ∧ q.Strays k) ∨
    (q.returning ≠ [] ∧ d.returning.truthy = false) ∨
    ∃ m e, q.model = some m ∧ catalog.entity m = .ok e ∧ q.MentionsOther e

/-- All columns are named by texts. -/
def NamesByTexts : Prop := ∀ v, q.Mentions v → ∃ t, v.textOf? = some t

variable {q}

theorem mentions_iff {v : Value} : q.Mentions v ↔ v ∈ q.mentioned := by
  simp only [mem_mentioned, Mentions, List.mem_map]

/-! ## Checks -/

theorem forbid_judges (parts : List Part) :
    Judges False (∃ p ∈ parts, q.has p = true) (q.forbid parts) := by
  unfold forbid
  split
  · next p hp => exact .invalid rfl ⟨p, List.mem_of_find?_eq_some hp, List.find?_some hp⟩
  · next hnone => exact ⟨id, fun ⟨p, hp, hhas⟩ => List.find?_eq_none.mp hnone p hp hhas⟩

theorem forbidPaging_judges : Judges False q.HasPaging q.forbidPaging := by
  have hpaging :
      q.HasPaging ↔ (!q.ordering.isEmpty || !q.limit.isNull || !q.offset.isNull) = true := by
    simp [HasPaging, ← Value.isNull_iff, or_assoc]
  unfold forbidPaging
  split
  · next h => exact .invalid rfl (hpaging.mpr h)
  · next h => exact ⟨id, fun hq => h (hpaging.mp hq)⟩

theorem validateParts_judges (k : Kind) : Judges (q.Lacks k) (q.Strays k) (q.validateParts k) := by
  cases k with
  | select =>
    have hreturning : Judges False (q.returning ≠ [])
        (if q.returning.isEmpty then .ok () else .error .returningOnSelect) := by
      split
      · next h => exact ⟨id, fun hne => hne (List.isEmpty_iff.mp h)⟩
      · next h => exact .invalid rfl fun hnil => h (List.isEmpty_iff.mpr hnil)
    refine (Judges.missing rfl fun _ => (forbid_judges _).bind fun _ => hreturning).congr ?_ ?_
    · simp [Lacks]
    · simp [Strays, has, or_assoc]
  | insert =>
    refine (Judges.missing rfl fun _ => (forbid_judges _).bind fun _ =>
      forbidPaging_judges).congr ?_ ?_
    · simp [Lacks]
    · simp [Strays, has, or_assoc]
  | update =>
    refine (Judges.missing rfl fun _ => (forbid_judges _).bind fun _ =>
      forbidPaging_judges).congr ?_ ?_
    · simp [Lacks]
    · simp [Strays, has, or_assoc]
  | delete =>
    refine ((forbid_judges _).bind fun _ => forbidPaging_judges).congr .rfl ?_
    simp [Strays, has, or_assoc]

theorem names_iff {e : Entity} {v : Value} :
    names e v = true ↔ ∃ t ∈ e.columnNames, v.textOf? = some t := by
  constructor
  · exact textOf?_of_names
  · rintro ⟨t, ht, hv⟩
    rw [names, hv]
    exact List.contains_iff_mem.mpr ht

/-- A text may be looked for among names, and is refused if it is none of them. -/
theorem checkMention_judges (e : Entity) {v : Value} (hv : ∃ t, v.textOf? = some t) :
    Judges False (∀ t ∈ e.columnNames, v.textOf? ≠ some t) (checkMention e v) := by
  have hkey : v.mayBeKey = true := by
    obtain ⟨t, ht⟩ := hv
    cases v <;> simp_all [Value.textOf?, Value.mayBeKey]
  unfold checkMention
  split
  · next h =>
    obtain ⟨t, ht, htext⟩ := names_iff.mp h
    exact ⟨id, fun hother => hother t ht htext⟩
  · next h => exact .invalid rfl fun t ht htext => h (names_iff.mpr ⟨t, ht, htext⟩)

theorem validate_judges (hnames : q.NamesByTexts)
    (hmodel : ∀ m, q.model = some m → ∃ e, catalog.entity m = .ok e) :
    Judges q.IsIncomplete (q.IsInvalid catalog d) (q.validate catalog d) := by
  have hincomplete : q.kind.isNull = true ∨ q.table.isNull = true ∨
      (∃ k, Kind.ofValue? q.kind = some k ∧ q.Lacks k) ↔ q.IsIncomplete := by
    simp only [IsIncomplete, Value.isNull_iff]
  refine (Judges.missing rfl fun _ => Judges.missing rfl fun _ => ?_).congr hincomplete .rfl
  unfold IsInvalid
  cases hk : Kind.ofValue? q.kind with
  | none => exact (Judges.invalid rfl (Or.inl rfl)).congr (by simp) .rfl
  | some k =>
    refine ((validateParts_judges k).bind fun _ => Judges.faulty rfl
      (V := ∃ m e, q.model = some m ∧ catalog.entity m = .ok e ∧ q.MentionsOther e) ?_).congr ?_ ?_
    · cases hm : q.model with
      | none => exact (Judges.ok k).congr .rfl (by simp)
      | some m =>
        obtain ⟨e, he⟩ := hmodel m hm
        have hmentions := Judges.forM fun v hv =>
          checkMention_judges e (hnames v (mentions_iff.mpr hv))
        simp only [he]
        refine (hmentions.bind fun _ => Judges.ok k).congr .rfl ?_
        simp [he, MentionsOther, mentions_iff]
    · simp
    · simp

/-! ## Building -/

/-- Pieces are written if what stands in a list is a text. -/
theorem exists_write {style : ParamStyle} (hstyle : style.IsKnown) {ps : List Piece}
    (h : ∀ v, .listed v ∈ ps → ∃ t, v.textOf? = some t) (first : Nat) :
    ∃ s, Piece.write style first ps = .ok s := by
  induction ps generalizing first with
  | nil => exact ⟨"", rfl⟩
  | cons p ps ih =>
    have hps := ih fun v hv => h v (List.mem_cons_of_mem p hv)
    cases p with
    | hole v =>
      obtain ⟨s, hs⟩ := hps (first + 1)
      rw [Piece.write_hole hstyle, hs]
      exact ⟨_, rfl⟩
    | listed v =>
      obtain ⟨s, hs⟩ := hps first
      obtain ⟨t, ht⟩ := h v List.mem_cons_self
      rw [Piece.write, ht, hs]
      exact ⟨_, rfl⟩
    | _ =>
      obtain ⟨s, hs⟩ := hps first
      rw [Piece.write, hs]
      exact ⟨_, rfl⟩

/-- What stands in a list in a statement is a column that the query mentions, or stands for all. -/
theorem textOf?_of_listed (hnames : q.NamesByTexts) (k : Kind) (d : Dialect) {v : Value}
    (hv : .listed v ∈ q.pieces k d) : ∃ t, v.textOf? = some t := by
  have hsubject : ∀ {ps : List Piece}, .listed v ∈ ps → v ∈ Piece.subjects ps :=
    fun h => List.mem_filterMap.mpr ⟨_, h, rfl⟩
  obtain ⟨front, back, hpieces, hfront, hback⟩ := q.pieces_split k d
  rw [hpieces, List.mem_append, List.mem_cons] at hv
  rcases hv with hv | hv | hv
  · have hcolumn := hfront v (hsubject hv)
    by_cases hall : v.textOf? = some "*"
    · exact ⟨"*", hall⟩
    · exact hnames v (.inl ⟨hcolumn, hall⟩)
  · cases hv
  · exact hnames v (mentions_iff.mpr (hback v (hsubject hv)))

theorem build_judges (hstyle : d.style.IsKnown) (hnames : q.NamesByTexts)
    (hmodel : ∀ m, q.model = some m → ∃ e, catalog.entity m = .ok e) :
    Judges q.IsIncomplete (q.IsInvalid catalog d) (q.build catalog d) := by
  have hwrite : ∀ k, Judges False False (do
      let sql ← Piece.write d.style 1 (q.pieces k d)
      .ok (Statement.mk sql (Piece.holes (q.pieces k d)))) := by
    intro k
    obtain ⟨s, hs⟩ := exists_write hstyle (fun v hv => textOf?_of_listed hnames k d hv) 1
    rw [hs]
    exact Judges.ok _
  exact ((validate_judges hnames hmodel).bind hwrite).congr .rfl (or_iff_left id)

/-- An update of users from the first row on. -/
def updateFromFirst : Query where
  kind := Kind.update.toValue
  table := .text "users"
  model := some Catalog.userModel
  assignments := [(.text "name", .text "Ann")]
  offset := .int 0

end Query

end RelMap
