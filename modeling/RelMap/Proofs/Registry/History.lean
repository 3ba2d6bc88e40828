import Mathlib.Data.List.DropRight
import RelMap.Proofs.Model.Declared

/-!
# The history of a registry

A registry is changed by declarations, of which some are refused; a declaration that is refused
leaves the registry as it was.  `Registry.replay` makes all declarations of a history, one after the
other.  What comes out of it is read off the history again: whether a model is registered, which name
its table has and which columns it has depends on the calls since the registry was last cleared, and
of these only on the calls about the model itself, each kind of call in its own order
(`Registry.replay_eq_history`).
-/

namespace RelMap

/-- A call that changes a registry. -/
inductive Declaration where
  | register (m : ModelId)
  | setTable (m : ModelId) (table : Value)
  | addColumn (m : ModelId) (c : Column)
  | clear
deriving Repr

/-! ## What a history says -/

namespace Declaration

def isClear : Declaration → Bool
  | clear => true
  | _ => false

/-- The calls since the registry was last cleared. -/
def sinceClear (ds : List Declaration) : List Declaration := ds.rtakeWhile fun d => !d.isClear

/-- The name that a call gives the table of a model; a text that is no identifier is no name. -/
def tableOf? (m : ModelId) : Declaration → Option Name
  | setTable n table => if n = m then (checkName "table name" table).toOption else none
  | _ => none

/-- The column that a call offers a model. -/
def columnOf? (m : ModelId) : Declaration → Option Column
  | addColumn n c => if n = m then some c else none
  | _ => none

variable (m : ModelId) (ds : List Declaration)

def Registers : Prop := register m ∈ sinceClear ds

/-- The names that the table of a model was given. -/
def tables : List Name := (sinceClear ds).filterMap (tableOf? m)

/-- The columns that were offered to a model. -/
def offers : List Column := (sinceClear ds).filterMap (columnOf? m)

/-- The name that the table of a model was given last, or the model's own in small letters. -/
def table : Name := (tables m ds).getLast?.getD (.plain (Text.lower m.name))

/-- Two histories make the same calls about a model since the registry was last cleared, each kind of
call in its order: both register it or neither does, its table is given the same names, and it is
offered the same columns. -/
structure Agree (ds ds' : List Declaration) : Prop where
  registers : Registers m ds ↔ Registers m ds'
  tables : tables m ds = tables m ds'
  offers : offers m ds = offers m ds'

variable {m ds}

theorem eq_clear {d : Declaration} (h : d.isClear = true) : d = clear := by
  cases d with
  | clear => rfl
  | _ => cases h

theorem eq_addColumn {d : Declaration} {c : Column} (h : d.columnOf? m = some c) :
    d = addColumn m c := by
  cases d with
  | addColumn n c' =>
    by_cases hn : n = m <;> simp_all [columnOf?]
  | _ => cases h

theorem sinceClear_clear (ds : List Declaration) : sinceClear (ds ++ [clear]) = [] := by
  simp [sinceClear, isClear]

theorem sinceClear_concat {d : Declaration} (h : d.isClear = false) :
    sinceClear (ds ++ [d]) = sinceClear ds ++ [d] := by
  simp [sinceClear, h]

theorem tables_concat {d : Declaration} (h : d.isClear = false) :
    tables m (ds ++ [d]) = tables m ds ++ (tableOf? m d).toList := by
  rw [tables, sinceClear_concat h, List.filterMap_append]
  cases hd : tableOf? m d <;> simp [tables, hd]

theorem offers_concat {d : Declaration} (h : d.isClear = false) :
    offers m (ds ++ [d]) = offers m ds ++ (columnOf? m d).toList := by
  rw [offers, sinceClear_concat h, List.filterMap_append]
  cases hd : columnOf? m d <;> simp [offers, hd]

end Declaration

namespace Column

instance : DecidableRel IsApart := fun c d =>
  inferInstanceAs (Decidable (c.collides d = false ∧ (c.isKey.truthy && d.isKey.truthy) = false))

/-- A column joins the others unless one of them keeps it out. -/
def accept (columns : List Column) (c : Column) : List Column :=
  if ∀ d ∈ columns, d.IsApart c then columns ++ [c] else columns

end Column

namespace Slot

/-- What a call makes of the slot of a model. -/
def after (m : ModelId) (s : Slot) : Declaration → Slot
  | .register n => if n = m then { s with registered := true } else s
  | .setTable n table =>
    if n = m then { s with table := (checkName "table name" table).toOption.getD s.table } else s
  | .addColumn n c => if n = m then { s with columns := Column.accept s.columns c } else s
  | .clear => .initial m

variable {m : ModelId} {d : Declaration}

theorem registered_after (s : Slot) (h : d.isClear = false) :
    (s.after m d).registered = true ↔ s.registered = true ∨ d = .register m := by
  cases d with
  | clear => cases h
  | _ n => by_cases hn : n = m <;> simp [after, hn]

theorem table_after (s : Slot) (h : d.isClear = false) :
    (s.after m d).table = (d.tableOf? m).getD s.table := by
  cases d with
  | clear => cases h
  | _ n => by_cases hn : n = m <;> simp [after, hn, Declaration.tableOf?]

theorem columns_after (s : Slot) (h : d.isClear = false) :
    (s.after m d).columns = (d.columnOf? m).toList.foldl Column.accept s.columns := by
  cases d with
  | clear => cases h
  | _ n => by_cases hn : n = m <;> simp [after, hn, Declaration.columnOf?]

end Slot

namespace Registry

open Declaration (Registers sinceClear tables offers tableOf? columnOf? Agree eq_clear
  sinceClear_clear sinceClear_concat tables_concat offers_concat)

variable {r : Registry} {m n : ModelId}

/-! ## Running a history -/

def declare (r : Registry) : Declaration → Result Registry
  | .register m => .ok (r.register m).1
  | .setTable m table => r.setTable m table
  | .addColumn m c => r.addColumn m c
  | .clear => .ok .empty

/-- The registry after a call; a call that is refused leaves it as it was. -/
def after (r : Registry) (d : Declaration) : Registry :=
  match r.declare d with
  | .ok r' => r'
  | .error _ => r

def replay (ds : List Declaration) : Registry := ds.foldl after empty

/-- Those of some calls that are accepted when they are made one after the other. -/
def acceptedFrom (r : Registry) : List Declaration → List Declaration
  | [] => []
  | d :: ds =>
    match r.declare d with
    | .ok r' => d :: acceptedFrom r' ds
    | .error _ => acceptedFrom r ds

def accepted (ds : List Declaration) : List Declaration := empty.acceptedFrom ds

/-! ## One call -/

theorem isRegistered_eq (r : Registry) (m : ModelId) :
    r.isRegistered m = (r.slot m).registered := by
  unfold isRegistered slot
  cases r.slot? m <;> rfl

theorem entity_eq (r : Registry) (m : ModelId) :
    r.entity m =
      if (r.slot m).registered then .ok ⟨m, (r.slot m).table, (r.slot m).columns⟩
      else .error (.unregistered m.name) := by
  unfold entity slot
  cases r.slot? m <;> rfl

theorem after_of_declare {d : Declaration} {r' : Registry} (h : r.declare d = .ok r') :
    r.after d = r' := by
  rw [after, h]

theorem slot_empty (m : ModelId) : empty.slot m = .initial m := rfl

theorem conflict?_eq_some {model : String} {c : Column} {columns : List Column} {e : Error}
    (h : conflict? model c columns = some e) : e.kind = .duplicateColumn := by
  induction columns with
  | nil => cases h
  | cons d rest ih =>
    unfold conflict? at h
    split at h
    · cases h
      rfl
    · split at h
      · cases h
        rfl
      · exact ih h

theorem addColumn_of_apart {c : Column} (h : ∀ d ∈ (r.slot m).columns, d.IsApart c) :
    r.addColumn m c =
      .ok (r.put m { r.slot m with columns := (r.slot m).columns ++ [c] }) := by
  unfold addColumn
  simp only [conflict?_eq_none.mpr h]

theorem addColumn_of_not_apart {c : Column} (h : ¬ ∀ d ∈ (r.slot m).columns, d.IsApart c) :
    ∃ e, r.addColumn m c = .error e := by
  unfold addColumn
  cases hc : conflict? m.name c (r.slot m).columns with
  | none => exact absurd (conflict?_eq_none.mp hc) h
  | some e => exact ⟨e, by simp only [hc]⟩

theorem slot_put (r : Registry) (m n : ModelId) (s : Slot) :
    (r.put n s).slot m = if n = m then s else r.slot m := by
  split
  · next h =>
    subst h
    exact slot_put_self r n s
  · next h => exact slot_put_of_ne r s (Ne.symm h)

/-- A call changes the slot of each model on its own. -/
theorem slot_after (r : Registry) (d : Declaration) (m : ModelId) :
    (r.after d).slot m = (r.slot m).after m d := by
  cases d with
  | clear => rfl
  | register n =>
    simp only [after, declare, register, Slot.after]
    by_cases hn : n = m
    · subst hn
      by_cases hr : (r.slot n).registered = true
      · rw [if_pos hr, if_pos rfl, ← hr]
      · simp [hr, slot_put]
    · by_cases hr : (r.slot n).registered = true
      · simp [hr, hn]
      · simp [hr, hn, slot_put]
  | setTable n table =>
    simp only [after, declare, setTable, Slot.after]
    cases checkName "table name" table with
    | error e => simp [bind, Except.bind, Except.toOption]
    | ok name =>
      by_cases hn : n = m
      · subst hn
        simp [bind, Except.bind, Except.toOption, slot_put]
      · simp [bind, Except.bind, slot_put, hn]
  | addColumn n c =>
    simp only [Slot.after, Column.accept]
    by_cases h : ∀ d ∈ (r.slot n).columns, d.IsApart c
    · simp only [after, declare, addColumn_of_apart h, slot_put]
      by_cases hn : n = m
      · subst hn
        rw [if_pos rfl, if_pos rfl, if_pos h]
      · simp [hn]
    · obtain ⟨e, he⟩ := addColumn_of_not_apart h
      simp only [after, declare, he]
      by_cases hn : n = m
      · subst hn
        rw [if_pos rfl, if_neg h]
      · simp [hn]

/-! ## A whole history -/

theorem replay_concat (ds : List Declaration) (d : Declaration) :
    replay (ds ++ [d]) = (replay ds).after d := by
  simp [replay]

theorem acceptedFrom_append (ds ds' : List Declaration) :
    r.acceptedFrom (ds ++ ds') = r.acceptedFrom ds ++ (ds.foldl after r).acceptedFrom ds' := by
  induction ds generalizing r with
  | nil => rfl
  | cons d ds ih =>
    simp only [List.cons_append, acceptedFrom, List.foldl_cons, after]
    cases r.declare d with
    | ok r' => simp [ih]
    | error e => simp [ih]

/-- The calls that are refused leave no trace. -/
theorem replay_accepted (ds : List Declaration) : replay (accepted ds) = replay ds := by
  unfold replay accepted
  generalize empty = r
  induction ds generalizing r with
  | nil => rfl
  | cons d ds ih =>
    simp only [acceptedFrom, List.foldl_cons]
    cases hd : r.declare d with
    | ok r' => simp only [List.foldl_cons, after, hd, ih]
    | error e => simp only [after, hd, ih]

/-- A call extends the accepted calls if it is accepted. -/
theorem accepted_concat (ds : List Declaration) (d : Declaration) :
    accepted (ds ++ [d]) = accepted ds ++ (replay ds).acceptedFrom [d] :=
  acceptedFrom_append ds [d]

theorem registered_replay (m : ModelId) (ds : List Declaration) :
    ((replay ds).slot m).registered = true ↔ Registers m ds := by
  induction ds using List.reverseRecOn with
  | nil => simp [replay, slot_empty, Slot.initial, Registers, sinceClear]
  | append_singleton ds d ih =>
    rw [replay_concat, slot_after, Registers]
    cases hd : d.isClear with
    | true =>
      rw [eq_clear hd, sinceClear_clear]
      simp [Slot.after, Slot.initial]
    | false =>
      rw [Slot.registered_after _ hd, sinceClear_concat hd, List.mem_append, List.mem_singleton, ih,
        Registers, eq_comm]

theorem table_replay (m : ModelId) (ds : List Declaration) :
    ((replay ds).slot m).table = Declaration.table m ds := by
  induction ds using List.reverseRecOn with
  | nil => rfl
  | append_singleton ds d ih =>
    rw [replay_concat, slot_after, Declaration.table]
    cases hd : d.isClear with
    | true =>
      rw [eq_clear hd, tables, sinceClear_clear]
      rfl
    | false =>
      rw [Slot.table_after _ hd, tables_concat hd, ih, Declaration.table]
      cases d.tableOf? m <;> simp

/-- The columns of a model are those that were admitted of the ones it was offered. -/
theorem columns_replay (m : ModelId) (ds : List Declaration) :
    ((replay ds).slot m).columns = (offers m ds).foldl Column.accept [] := by
  induction ds using List.reverseRecOn with
  | nil => rfl
  | append_singleton ds d ih =>
    rw [replay_concat, slot_after]
    cases hd : d.isClear with
    | true =>
      rw [eq_clear hd, offers, sinceClear_clear]
      rfl
    | false => rw [Slot.columns_after _ hd, offers_concat hd, ih, List.foldl_append]

theorem acceptedFrom_singleton (r : Registry) (d : Declaration) :
    r.acceptedFrom [d] = [d] ∨ r.acceptedFrom [d] = [] := by
  simp only [acceptedFrom]
  cases r.declare d <;> simp

/-- The columns of a model are those of the accepted calls, none lost and none repeated. -/
theorem columns_replay_accepted (m : ModelId) (ds : List Declaration) :
    ((replay ds).slot m).columns = offers m (accepted ds) := by
  induction ds using List.reverseRecOn with
  | nil => rfl
  | append_singleton ds d ih =>
    rw [replay_concat, slot_after, accepted_concat]
    cases hd : d.isClear with
    | true =>
      rw [eq_clear hd]
      change [] = offers m (accepted ds ++ [.clear])
      rw [offers, sinceClear_clear, List.filterMap_nil]
    | false =>
      rw [Slot.columns_after _ hd, ih]
      cases hc : d.columnOf? m with
      | none =>
        -- whether or not the call is accepted, it brings the model no column
        rcases acceptedFrom_singleton (replay ds) d with h | h
        · rw [h, offers_concat hd, hc]
          simp
        · rw [h]
          simp
      | some c =>
        obtain rfl := Declaration.eq_addColumn hc
        by_cases h : ∀ b ∈ ((replay ds).slot m).columns, b.IsApart c
        · simp only [acceptedFrom, declare, addColumn_of_apart h]
          rw [offers_concat hd, hc, ← ih, Option.toList_some, List.foldl_cons, List.foldl_nil,
            Column.accept, if_pos h]
        · obtain ⟨e, he⟩ := addColumn_of_not_apart h
          simp only [acceptedFrom, declare, he]
          rw [List.append_nil, ← ih, Option.toList_some, List.foldl_cons, List.foldl_nil,
            Column.accept, if_neg h]

theorem addColumn_eq_error_iff {c : Column} :
    (∃ e, r.addColumn m c = .error e) ↔ ∃ d ∈ (r.slot m).columns, ¬ d.IsApart c := by
  by_cases h : ∀ d ∈ (r.slot m).columns, d.IsApart c
  · rw [addColumn_of_apart h]
    constructor
    · rintro ⟨e, he⟩
      cases he
    · rintro ⟨d, hd, hnot⟩
      exact absurd (h d hd) hnot
  · obtain ⟨e, he⟩ := addColumn_of_not_apart h
    constructor
    · intro
      simpa using h
    · intro
      exact ⟨e, he⟩

theorem kind_of_addColumn {c : Column} {e : Error} (h : r.addColumn m c = .error e) :
    e.kind = .duplicateColumn := by
  unfold addColumn at h
  dsimp only at h
  split at h
  · next e' he =>
    cases h
    exact conflict?_eq_some he
  · cases h

/-- **A registry is the history of its accepted declarations.**  After any history a model is
registered exactly if it was registered since the last clearing; only then it has metadata, namely
the name that its table was given last and the columns of the accepted calls, in their order.  A
column is refused exactly if it has the field or the name of one of these or would be a second
primary key.  Calls that are refused, calls about other models and the order of calls of different
kinds make no difference. -/
theorem replay_eq_history (ds : List Declaration) (m : ModelId) :
    ((replay ds).isRegistered m = true ↔ Registers m ds) ∧
      (Registers m ds →
        (replay ds).entity m = .ok ⟨m, Declaration.table m ds, offers m (accepted ds)⟩) ∧
      (¬ Registers m ds → (replay ds).entity m = .error (.unregistered m.name)) ∧
      (∀ c e, (replay ds).addColumn m c = .error e → e.kind = .duplicateColumn) ∧
      (∀ c, (∃ e, (replay ds).addColumn m c = .error e) ↔
        ∃ d ∈ offers m (accepted ds), d.field.sameKey c.field = true ∨
          d.name.text = c.name.text ∨ (d.isKey.truthy = true ∧ c.isKey.truthy = true)) ∧
      replay (accepted ds) = replay ds ∧
      ∀ ds', Agree m ds ds' → (replay ds').entity m = (replay ds).entity m := by
  refine ⟨?_, ?_, ?_, ?_, ?_, replay_accepted ds, ?_⟩
  · rw [isRegistered_eq, registered_replay]
  · intro h
    rw [entity_eq, if_pos ((registered_replay m ds).mpr h), table_replay, columns_replay_accepted]
  · intro h
    rw [entity_eq, if_neg fun hr => h ((registered_replay m ds).mp hr)]
  · intro c e
    exact kind_of_addColumn
  · intro c
    rw [addColumn_eq_error_iff, columns_replay_accepted]
    simp only [Column.IsApart, Column.collides, not_and_or, Bool.not_eq_false, Bool.or_eq_true,
      Bool.and_eq_true, beq_iff_eq, or_assoc]
  · intro ds' h
    have hregistered :
        ((replay ds').slot m).registered = ((replay ds).slot m).registered := by
      rw [Bool.eq_iff_iff, registered_replay, registered_replay, h.registers]
    rw [entity_eq, entity_eq, hregistered, table_replay, table_replay, columns_replay,
      columns_replay, Declaration.table, Declaration.table, h.tables, h.offers]

end Registry

end RelMap
