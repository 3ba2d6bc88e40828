import RelMap.Proofs.Query.Alignment
import RelMap.Proofs.Query.Edit

/-!
# The table of a query

The last call that names a table decides the table of a query and its model, whatever is declared
between the calls.  A query whose table was given by a model is checked when it is built: it may
only mention columns that the model has by then.  A query whose table was given by a name is not.

The names in a statement are read off its pieces: the table stands in one place, columns of a
projection stand before it, and all others behind.
-/

namespace RelMap

/-! ## Calls at changing times -/

namespace BuilderCall

/-- The table that a call names, if it names one. -/
def target? : BuilderCall → Option ModelTerm
  | ofModel m => some (.argument (.model m))
  | fromTable table => some table
  | insert table _ => some table
  | insertDefaults table => some table
  | update table _ => some table
  | delete table => some table
  | _ => none

/-- Does a call leave the table of a query as it is?  A query that is put together from parts has a
table of its own. -/
def keepsTarget : BuilderCall → Bool
  | start _ => false
  | c => c.target?.isNone

variable {catalog : Catalog} {q q' : Query}

/-- Calls that name no table leave the table and its model as they are. -/
theorem target_of_keeps {c : BuilderCall} (h : c.keepsTarget = true)
    (hrun : c.run catalog q = .ok q') : q'.table = q.table ∧ q'.model = q.model := by
  rw [run_eq] at hrun
  obtain ⟨edit, hedit, rfl⟩ := Result.map_eq_ok.mp hrun
  cases c with
  | select columns distinct =>
    obtain ⟨names, -, rfl⟩ := Result.map_eq_ok.mp hedit
    exact ⟨rfl, rfl⟩
  | whereColumn column operator value =>
    simp only [BuilderCall.edit] at hedit
    split at hedit
    · cases hedit
    · obtain ⟨c, -, rfl⟩ := Result.map_eq_ok.mp hedit
      exact ⟨rfl, rfl⟩
  | whereParts parts operator =>
    obtain ⟨c, -, hedit⟩ := Result.bind_eq_ok.mp hedit
    rw [conditionEdit_eq_ok hedit]
    exact ⟨rfl, rfl⟩
  | whereComparison k column value operator =>
    obtain ⟨c, -, hedit⟩ := Result.bind_eq_ok.mp hedit
    rw [conditionEdit_eq_ok hedit]
    exact ⟨rfl, rfl⟩
  | orderBy column descending =>
    obtain ⟨n, -, rfl⟩ := Result.map_eq_ok.mp hedit
    exact ⟨rfl, rfl⟩
  | limit n =>
    obtain ⟨n, -, rfl⟩ := Result.map_eq_ok.mp hedit
    exact ⟨rfl, rfl⟩
  | offset n =>
    obtain ⟨n, -, rfl⟩ := Result.map_eq_ok.mp hedit
    exact ⟨rfl, rfl⟩
  | returning columns =>
    simp only [BuilderCall.edit] at hedit
    split at hedit
    · cases hedit
    · split at hedit
      · cases hedit
      · obtain ⟨names, -, rfl⟩ := Result.map_eq_ok.mp hedit
        exact ⟨rfl, rfl⟩
  | _ => cases h

/-- A call that names a table sets the table and its model. -/
theorem target_of_names {c : BuilderCall} {t : ModelTerm} (h : c.target? = some t)
    (hrun : c.run catalog q = .ok q') : targetOf catalog t = .ok (q'.table, q'.model) := by
  rw [run_eq] at hrun
  obtain ⟨edit, hedit, rfl⟩ := Result.map_eq_ok.mp hrun
  cases c with
  | ofModel m =>
    cases h
    obtain ⟨r, hr, rfl⟩ := Result.map_eq_ok.mp hedit
    obtain ⟨_, -, hr⟩ := Result.bind_eq_ok.mp hr
    obtain ⟨r', -, hr⟩ := Result.bind_eq_ok.mp hr
    obtain ⟨p, hp, hr⟩ := Result.bind_eq_ok.mp hr
    cases hr
    exact hp
  | fromTable table =>
    cases h
    obtain ⟨p, hp, rfl⟩ := Result.map_eq_ok.mp hedit
    exact hp
  | insert table row =>
    cases h
    obtain ⟨cs, p, -, hp, rfl⟩ := rowEdit_eq_ok hedit
    exact hp
  | insertDefaults table =>
    cases h
    obtain ⟨p, hp, rfl⟩ := Result.map_eq_ok.mp hedit
    exact hp
  | update table row =>
    cases h
    obtain ⟨cs, p, -, hp, rfl⟩ := rowEdit_eq_ok hedit
    exact hp
  | delete table =>
    cases h
    obtain ⟨p, hp, rfl⟩ := Result.map_eq_ok.mp hedit
    exact hp
  | _ => cases h

end BuilderCall

namespace Query

variable {q q' : Query} {catalog : Catalog} {d : Dialect}

/-- Makes calls one after the other, each with what is declared by then. -/
def runTimed (q : Query) (calls : List (Catalog × BuilderCall)) : Result Query :=
  calls.foldlM (fun q c => c.2.run c.1 q) q

/-- The last call that names a table decides the table and its model. -/
theorem target_of_runTimed {before after : List (Catalog × BuilderCall)} {call : BuilderCall}
    {t : ModelTerm} (hcall : call.target? = some t) (hafter : ∀ c ∈ after, c.2.keepsTarget = true)
    (h : q.runTimed (before ++ (catalog, call) :: after) = .ok q') :
    BuilderCall.targetOf catalog t = .ok (q'.table, q'.model) := by
  have hkept : ∀ {q₁ q₂ : Query}, q₁.runTimed after = .ok q₂ →
      q₂.table = q₁.table ∧ q₂.model = q₁.model := by
    clear h
    induction after with
    | nil =>
      rintro q₁ q₂ ⟨⟩
      exact ⟨rfl, rfl⟩
    | cons c after ih =>
      intro q₁ q₂ hrun
      rw [List.forall_mem_cons] at hafter
      obtain ⟨r, hr, hrun⟩ := Result.bind_eq_ok.mp hrun
      obtain ⟨htable, hmodel⟩ := ih hafter.2 hrun
      obtain ⟨htable', hmodel'⟩ := BuilderCall.target_of_keeps hafter.1 hr
      exact ⟨htable.trans htable', hmodel.trans hmodel'⟩
  rw [runTimed, List.foldlM_append] at h
  obtain ⟨q₀, -, h⟩ := Result.bind_eq_ok.mp h
  obtain ⟨q₁, hnamed, h⟩ := Result.bind_eq_ok.mp h
  obtain ⟨htable, hmodel⟩ := hkept h
  rw [htable, hmodel]
  exact BuilderCall.target_of_names hcall hnamed

/-! ## What is checked -/

theorem names_of_checkMention {e : Entity} {v : Value} (h : checkMention e v = .ok ()) :
    names e v = true := by
  unfold checkMention at h
  split at h
  · assumption
  · split at h <;> cases h

/-- A query that is checked against a model mentions only columns of the model. -/
theorem names_of_validate {k : Kind} {m : ModelId} (hmodel : q.model = some m)
    (h : q.validate catalog d = .ok k) :
    ∃ e, catalog.entity m = .ok e ∧ ∀ v ∈ q.mentioned, names e v = true := by
  obtain ⟨htable, -, hof⟩ := validate_eq_ok h
  have hkind : q.kind.isNull = false := by
    cases hgiven : q.kind with
    | null =>
      rw [hgiven] at hof
      cases hof
    | _ => rfl
  simp only [validate, hkind, htable, hof, hmodel, Bool.false_eq_true, if_false] at h
  obtain ⟨_, -, h⟩ := Result.bind_eq_ok.mp h
  split at h
  · cases h
  · obtain ⟨e, he, h⟩ := Result.bind_eq_ok.mp h
    obtain ⟨_, hcolumns, -⟩ := Result.bind_eq_ok.mp h
    exact ⟨e, he, fun v hv => names_of_checkMention (Result.of_forM_eq_ok hcolumns v hv)⟩

/-- A query without a model is built alike whatever is declared. -/
theorem build_eq_of_model_none (hmodel : q.model = none) (catalog catalog' : Catalog)
    (d : Dialect) : q.build catalog d = q.build catalog' d := by
  have hvalid : q.validate catalog d = q.validate catalog' d := by
    unfold validate
    simp only [hmodel]
  rw [build, build, hvalid]

end Query

/-! ## Names in pieces -/

namespace Piece

/-- The value that a piece names a table or a column by, if it names one. -/
def subject? : Piece → Option Value
  | name v => some v
  | listed v => some v
  | _ => none

def subjects (ps : List Piece) : List Value := ps.filterMap subject?

/-- The name that a piece writes, if it writes one. -/
def nameText? : Piece → Option String
  | name v => some v.display
  | listed v => v.textOf?
  | _ => none

/-- The names in pieces, as they are written. -/
def names (ps : List Piece) : List String := ps.filterMap nameText?

/-- The characters of the names in pieces. -/
def texts (ps : List Piece) : List String := (subjects ps).filterMap Value.textOf?

/-- Names in running text stand there by their characters, not under a label. -/
def Unlabelled (ps : List Piece) : Prop := ∀ v, name v ∈ ps → v.textOf? = some v.display

theorem subjects_append (ps qs : List Piece) : subjects (ps ++ qs) = subjects ps ++ subjects qs :=
  List.filterMap_append

theorem texts_append (ps qs : List Piece) : texts (ps ++ qs) = texts ps ++ texts qs := by
  rw [texts, subjects_append, List.filterMap_append]
  rfl

theorem subjects_separated (sep : String) (groups : List (List Piece)) :
    subjects (separated sep groups) = groups.flatMap subjects := by
  induction groups with
  | nil => rfl
  | cons group groups ih =>
    cases groups with
    | nil => exact (List.append_nil _).symm
    | cons other groups =>
      change subjects (group ++ ([fixed sep] ++ separated sep (other :: groups))) = _
      rw [subjects_append, subjects_append, ih]
      rfl

theorem subjects_nameList (vs : List Value) : subjects (nameList vs) = vs := by
  rw [nameList, subjects_separated, List.flatMap_map]
  exact List.flatMap_singleton' vs

theorem subjects_holeList (vs : List Value) : subjects (holeList vs) = [] := by
  rw [holeList, subjects_separated, List.flatMap_map]
  exact List.flatMap_eq_nil_iff.mpr fun _ _ => rfl

theorem unlabelled_cons {p : Piece} {ps : List Piece} :
    Unlabelled (p :: ps) ↔ (∀ v, p = name v → v.textOf? = some v.display) ∧ Unlabelled ps := by
  simp only [Unlabelled, List.mem_cons, or_imp, forall_and, eq_comm]

/-- Names are written by their characters exactly if none in running text has a label. -/
theorem names_eq_texts_iff {ps : List Piece} (h : ∀ v ∈ subjects ps, ∃ t, v.textOf? = some t) :
    names ps = texts ps ↔ Unlabelled ps := by
  induction ps with
  | nil => exact ⟨fun _ => nofun, fun _ => rfl⟩
  | cons p ps ih =>
    rw [unlabelled_cons]
    cases p with
    | name v =>
      obtain ⟨⟨t, ht⟩, hps⟩ := List.forall_mem_cons.mp h
      have htexts : texts (name v :: ps) = t :: texts ps := List.filterMap_cons_some ht
      rw [htexts, ← ih hps]
      change v.display :: names ps = _ ↔ _
      rw [List.cons.injEq]
      refine and_congr_left fun _ => ⟨?_, fun hv => ?_⟩
      · rintro rfl w ⟨⟩
        exact ht
      · exact Option.some.inj ((hv v rfl).symm.trans ht)
    | listed v =>
      obtain ⟨⟨t, ht⟩, hps⟩ := List.forall_mem_cons.mp h
      have htexts : texts (listed v :: ps) = t :: texts ps := List.filterMap_cons_some ht
      have hnames : names (listed v :: ps) = t :: names ps := List.filterMap_cons_some ht
      rw [htexts, hnames, List.cons.injEq, ih hps]
      exact (and_iff_right rfl).trans (and_iff_right nofun).symm
    | _ => exact (ih h).trans (and_iff_right nofun).symm

end Piece

theorem Condition.subjects_pieces {c : Condition} {v : Value}
    (hv : v ∈ Piece.subjects c.pieces) : v = c.column := by
  unfold Condition.pieces at hv
  split at hv
  · exact List.mem_singleton.mp hv
  · split at hv
    · cases hv
    · rw [Piece.subjects_append, Piece.subjects_append, Piece.subjects_holeList] at hv
      exact List.mem_singleton.mp hv
    · exact List.mem_singleton.mp hv

namespace Query

open Piece

variable (q : Query)

theorem mem_mentioned {v : Value} : v ∈ q.mentioned ↔
    (v ∈ q.columns ∧ v.textOf? ≠ some "*") ∨ v ∈ q.values.map Prod.fst ∨
      v ∈ q.assignments.map Prod.fst ∨ v ∈ q.conditions.map Condition.column ∨
      v ∈ q.ordering.map Ordering.column ∨ v ∈ q.returning := by
  simp only [mentioned, List.mem_append, List.mem_filter, decide_eq_true_eq, or_assoc]

/-- The query mentions all that the pieces name. -/
def Covers (ps : List Piece) : Prop := ∀ v ∈ subjects ps, v ∈ q.mentioned

variable {q}

theorem Covers.append {ps qs : List Piece} (hps : q.Covers ps) (hqs : q.Covers qs) :
    q.Covers (ps ++ qs) := by
  unfold Covers
  rw [subjects_append]
  exact List.forall_mem_append.mpr ⟨hps, hqs⟩

variable (q)

theorem covers_where : q.Covers q.wherePieces := by
  intro v hv
  unfold wherePieces at hv
  split at hv
  · cases hv
  · change v ∈ subjects (separated _ _) at hv
    rw [subjects_separated, List.flatMap_map] at hv
    obtain ⟨c, hc, hv⟩ := List.mem_flatMap.mp hv
    have hcolumn : v ∈ q.conditions.map Condition.column :=
      List.mem_map.mpr ⟨c, hc, (Condition.subjects_pieces hv).symm⟩
    exact q.mem_mentioned.mpr (.inr (.inr (.inr (.inl hcolumn))))

theorem covers_order : q.Covers q.orderPieces := by
  intro v hv
  unfold orderPieces at hv
  split at hv
  · cases hv
  · change v ∈ subjects (separated _ _) at hv
    rw [subjects_separated, List.flatMap_map] at hv
    obtain ⟨o, ho, hv⟩ := List.mem_flatMap.mp hv
    have hcolumn : v ∈ q.ordering.map Ordering.column :=
      List.mem_map.mpr ⟨o, ho, (List.mem_singleton.mp hv).symm⟩
    exact q.mem_mentioned.mpr (.inr (.inr (.inr (.inr (.inl hcolumn)))))

theorem covers_limit : q.Covers q.limitPieces := by
  unfold limitPieces
  split <;> nofun

theorem covers_offset (d : Dialect) : q.Covers (q.offsetPieces d) := by
  unfold offsetPieces
  split
  · nofun
  · split <;> nofun

theorem covers_returning : q.Covers q.returningPieces := by
  intro v hv
  unfold returningPieces at hv
  split at hv
  · cases hv
  · change v ∈ subjects (nameList _) at hv
    rw [subjects_nameList] at hv
    exact q.mem_mentioned.mpr (.inr (.inr (.inr (.inr (.inr hv)))))

theorem covers_row : q.Covers (nameList (q.values.map Prod.fst) ++ ([.fixed ") VALUES ("] ++
    (holeList (q.values.map Prod.snd) ++ [.fixed ")"]))) := by
  refine .append (fun v hv => ?_) (.append nofun (.append (fun v hv => ?_) nofun))
  · rw [subjects_nameList] at hv
    exact q.mem_mentioned.mpr (.inr (.inl hv))
  · rw [subjects_holeList] at hv
    cases hv

theorem covers_assignments : q.Covers (separated ", " (q.assignments.map fun a =>
    [.name a.1, .fixed " = ", .hole a.2])) := by
  intro v hv
  rw [subjects_separated, List.flatMap_map] at hv
  obtain ⟨a, ha, hv⟩ := List.mem_flatMap.mp hv
  have hcolumn : v ∈ q.assignments.map Prod.fst :=
    List.mem_map.mpr ⟨a, ha, (List.mem_singleton.mp hv).symm⟩
  exact q.mem_mentioned.mpr (.inr (.inr (.inl hcolumn)))

/-- The table is named in one place of a statement, the columns of a projection before it and all
others behind. -/
theorem pieces_split (k : Kind) (d : Dialect) :
    ∃ front back, q.pieces k d = front ++ q.tablePiece :: back ∧
      (∀ v ∈ subjects front, v ∈ q.columns) ∧ q.Covers back := by
  have hreturning := q.covers_returning
  have hnone : ∀ s, ∀ v ∈ subjects [.fixed s], v ∈ q.columns :=
    fun s v hv => absurd hv List.not_mem_nil
  cases k with
  | select =>
    have hfront : ∀ v ∈ subjects (.fixed (if q.distinct.truthy then "SELECT DISTINCT " else
        "SELECT ") :: (nameList q.columns ++ [.fixed " FROM "])), v ∈ q.columns := by
      intro v hv
      change v ∈ subjects (nameList q.columns ++ [.fixed " FROM "]) at hv
      rw [subjects_append, subjects_nameList, List.mem_append] at hv
      exact hv.resolve_right List.not_mem_nil
    have hback := q.covers_where.append (q.covers_order.append (q.covers_limit.append
      ((q.covers_offset d).append hreturning)))
    refine ⟨_, _, ?_, hfront, hback⟩
    simp only [pieces, selectPieces, List.append_assoc, List.cons_append, List.nil_append]
  | insert =>
    cases hdefaults : q.defaultValues.truthy with
    | true =>
      refine ⟨[.fixed "INSERT INTO "], .fixed " DEFAULT VALUES" :: q.returningPieces, ?_, hnone _,
        hreturning⟩
      simp only [pieces, insertPieces, hdefaults, if_true, List.cons_append, List.nil_append]
    | false =>
      refine ⟨[.fixed "INSERT INTO "], .fixed " (" :: (_ ++ q.returningPieces), ?_, hnone _,
        q.covers_row.append hreturning⟩
      simp only [pieces, insertPieces, hdefaults, Bool.false_eq_true, if_false, List.append_assoc,
        List.cons_append, List.nil_append]
  | update =>
    refine ⟨[.fixed "UPDATE "], .fixed " SET " :: (_ ++ (q.wherePieces ++ q.returningPieces)), ?_,
      hnone _, q.covers_assignments.append (q.covers_where.append hreturning)⟩
    simp only [pieces, updatePieces, List.append_assoc, List.cons_append, List.nil_append]
  | delete =>
    refine ⟨[.fixed "DELETE FROM "], q.wherePieces ++ q.returningPieces, ?_, hnone _,
      q.covers_where.append hreturning⟩
    simp only [pieces, deletePieces, List.cons_append, List.nil_append]

/-- A table, before it columns of an entity or all of them, and behind it columns of the entity. -/
def NameOnly (e : Entity) (table : String) (names : List String) : Prop :=
  ∃ projection others, names = projection ++ table :: others ∧
    (∀ t ∈ projection, t = "*" ∨ t ∈ e.columnNames) ∧ ∀ t ∈ others, t ∈ e.columnNames

theorem textOf?_of_names {e : Entity} {v : Value} (hv : names e v = true) :
    ∃ t ∈ e.columnNames, v.textOf? = some t := by
  unfold names at hv
  split at hv
  · next t ht => exact ⟨t, List.contains_iff_mem.mp hv, ht⟩
  · cases hv

section Checked

variable {q : Query} {e : Entity} {table : Name} {k : Kind} {d : Dialect}
  (htable : q.table = table.toValue) (hmentioned : ∀ v ∈ q.mentioned, names e v = true)

include hmentioned

theorem textOf?_of_mem_columns : ∀ v ∈ q.columns,
    ∃ t, (t = "*" ∨ t ∈ e.columnNames) ∧ v.textOf? = some t := by
  intro v hv
  by_cases hall : v.textOf? = some "*"
  · exact ⟨"*", .inl rfl, hall⟩
  · obtain ⟨t, ht, htext⟩ := textOf?_of_names (hmentioned v (q.mem_mentioned.mpr (.inl ⟨hv, hall⟩)))
    exact ⟨t, .inr ht, htext⟩

include htable

/-- The characters of what a checked query names are those of its table and of columns. -/
theorem nameOnly_texts (k : Kind) (d : Dialect) :
    NameOnly e table.text (texts (q.pieces k d)) := by
  obtain ⟨front, back, hpieces, hfront, hback⟩ := q.pieces_split k d
  refine ⟨texts front, texts back, ?_, fun t ht => ?_, fun t ht => ?_⟩
  · have hrest : texts (q.tablePiece :: back) = table.text :: texts back :=
      List.filterMap_cons_some (htable ▸ Name.textOf?_toValue table)
    rw [hpieces, texts_append, hrest]
  · obtain ⟨v, hv, ht⟩ := List.mem_filterMap.mp ht
    obtain ⟨t', ht', htext⟩ := textOf?_of_mem_columns hmentioned v (hfront v hv)
    exact Option.some.inj (ht.symm.trans htext) ▸ ht'
  · obtain ⟨v, hv, ht⟩ := List.mem_filterMap.mp ht
    obtain ⟨t', ht', htext⟩ := textOf?_of_names (hmentioned v (hback v hv))
    exact Option.some.inj (ht.symm.trans htext) ▸ ht'

/-- All that a checked query names has characters. -/
theorem textOf?_of_mem_pieces : ∀ v ∈ subjects (q.pieces k d), ∃ t, v.textOf? = some t := by
  obtain ⟨front, back, hpieces, hfront, hback⟩ := q.pieces_split k d
  rw [hpieces, subjects_append]
  refine List.forall_mem_append.mpr ⟨fun v hv => ?_, List.forall_mem_cons.mpr ⟨?_, fun v hv => ?_⟩⟩
  · obtain ⟨t, -, ht⟩ := textOf?_of_mem_columns hmentioned v (hfront v hv)
    exact ⟨t, ht⟩
  · exact ⟨table.text, htable ▸ Name.textOf?_toValue table⟩
  · obtain ⟨t, -, ht⟩ := textOf?_of_names (hmentioned v (hback v hv))
    exact ⟨t, ht⟩

end Checked

end Query

end RelMap
