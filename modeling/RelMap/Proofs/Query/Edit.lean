import RelMap.Query.Call
import RelMap.Proofs.Result

/-!
# Edits

What a call of the builder does to a query, and whether it is accepted, does not depend on the query.
`BuilderCall.edit` makes the checks of a call and yields the edit that it stands for, and making the
call is making these checks and then the edit (`BuilderCall.run_eq`).  So of a sequence of calls all
checks may be made first (`Query.runCalls_eq`), and what holds of queries that calls make is shown by
one case for each kind of edit.
-/

namespace RelMap

/-- What an accepted call does to a query. -/
inductive Query.Edit where
  | become (q : Query)
  | select (columns : List Value) (distinct : Value)
  | target (table : Value) (model : Option ModelId)
  | insert (row : List Cell) (table : Value) (model : Option ModelId)
  | insertDefaults (table : Value) (model : Option ModelId)
  | update (row : List Cell) (table : Value) (model : Option ModelId)
  | delete (table : Value) (model : Option ModelId)
  | addCondition (c : Condition)
  | addOrdering (o : Ordering)
  | limit (n : Value)
  | offset (n : Value)
  | returning (columns : List Value)

def Query.Edit.apply (q : Query) : Edit → Query
  | become r => r
  | select columns distinct => { q with kind := Kind.select.toValue, columns, distinct }
  | target table model => { q with table, model }
  | insert row table model =>
    { q with
      kind := Kind.insert.toValue, values := row, defaultValues := .bool false, table, model }
  | insertDefaults table model =>
    { q with
      kind := Kind.insert.toValue, values := [], defaultValues := .bool true, table, model }
  | update row table model =>
    { q with kind := Kind.update.toValue, assignments := row, table, model }
  | delete table model => { q with kind := Kind.delete.toValue, table, model }
  | addCondition c => { q with conditions := q.conditions ++ [c] }
  | addOrdering o => { q with ordering := q.ordering ++ [o] }
  | limit n => { q with limit := n }
  | offset n => { q with offset := n }
  | returning columns => { q with returning := columns }

namespace BuilderCall

open Query (Edit)

/-- The condition that was given with an operator beside it, which must be null. -/
def conditionEdit (c : Condition) (operator : Value) : Result Edit :=
  if operator.isNull then .ok (.addCondition c) else .error .conditionWithOperator

/-- The table that a term names, and its model. -/
def targetOf (catalog : Catalog) (table : ModelTerm) : Result (Value × Option ModelId) := do
  Query.target catalog (← table.evaluate catalog)

/-- The edit that brings a row to a table.  The row is checked before the table is, but the table is
evaluated first. -/
def rowEdit (catalog : Catalog) (table : ModelTerm) (row : Value)
    (f : List Cell → Value → Option ModelId → Edit) : Result Edit := do
  let a ← table.evaluate catalog
  let cs ← Query.cells row
  (Query.target catalog a).map fun t => f cs t.1 t.2

/-- The edit that a call stands for, if the call is accepted. -/
def edit (catalog : Catalog) : BuilderCall → Result Edit
  | start parts => (Query.ofArguments parts).map .become
  | ofModel m => (Query.ofModel catalog m).map .become
  | select columns distinct => (Query.projection columns).map fun names => .select names distinct
  | fromTable table => (targetOf catalog table).map fun t => .target t.1 t.2
  | insert table row => rowEdit catalog table row .insert
  | insertDefaults table => (targetOf catalog table).map fun t => .insertDefaults t.1 t.2
  | update table row => rowEdit catalog table row .update
  | delete table => (targetOf catalog table).map fun t => .delete t.1 t.2
  | whereColumn column operator value =>
    if operator.isNull then .error .operatorMissing
    else (Condition.make column operator value).map .addCondition
  | whereParts parts operator => do conditionEdit (← Condition.ofArguments parts) operator
  | whereComparison c column value operator => do
    conditionEdit (← c.condition column value) operator
  | orderBy column descending =>
    (Query.columnName column).map fun n => .addOrdering ⟨n, descending⟩
  | limit n => (Query.count "limit" n).map .limit
  | offset n => (Query.count "offset" n).map .offset
  | returning columns =>
    match columns.items? with
    | none => .error (.fault .wrongType)
    | some items =>
      if items.isEmpty then .error .returningNothing
      else (items.mapM Query.columnName).map .returning

theorem rowEdit_eq_ok {catalog : Catalog} {table : ModelTerm} {row : Value}
    {f : List Cell → Value → Option ModelId → Edit} {e : Edit}
    (h : rowEdit catalog table row f = .ok e) :
    ∃ cs t, Query.cells row = .ok cs ∧ targetOf catalog table = .ok t ∧ e = f cs t.1 t.2 := by
  obtain ⟨a, ha, h⟩ := Result.bind_eq_ok.mp h
  obtain ⟨cs, hcs, h⟩ := Result.bind_eq_ok.mp h
  obtain ⟨t, ht, rfl⟩ := Result.map_eq_ok.mp h
  exact ⟨cs, t, hcs, Result.bind_eq_ok.mpr ⟨a, ha, ht⟩, rfl⟩

theorem conditionEdit_eq_ok {c : Condition} {operator : Value} {e : Edit}
    (h : conditionEdit c operator = .ok e) : e = .addCondition c := by
  unfold conditionEdit at h
  by_cases hnull : operator.isNull = true
  · rw [if_pos hnull] at h
    exact (Except.ok.inj h).symm
  · rw [if_neg hnull] at h
    cases h

section

variable {catalog : Catalog} {q : Query} {table : ModelTerm} {row : Value}

theorem map_apply_targetOf (f : Value → Option ModelId → Edit) :
    ((targetOf catalog table).map fun t => f t.1 t.2).map (Edit.apply q) =
      table.evaluate catalog >>= fun a => Query.target catalog a >>= fun t =>
        .ok ((f t.1 t.2).apply q) := by
  unfold targetOf
  cases table.evaluate catalog with
  | error e => rfl
  | ok a =>
    simp only [bind, Except.bind]
    cases Query.target catalog a <;> rfl

theorem map_apply_rowEdit (f : List Cell → Value → Option ModelId → Edit) :
    (rowEdit catalog table row f).map (Edit.apply q) =
      table.evaluate catalog >>= fun a => Query.cells row >>= fun cs =>
        Query.target catalog a >>= fun t => .ok ((f cs t.1 t.2).apply q) := by
  unfold rowEdit
  cases table.evaluate catalog with
  | error e => rfl
  | ok a =>
    simp only [bind, Except.bind]
    cases Query.cells row with
    | error e => rfl
    | ok cs =>
      dsimp only
      cases Query.target catalog a <;> rfl

theorem whereCondition_eq (c : Condition) (operator : Value) :
    q.whereCondition c operator = (conditionEdit c operator).map (Edit.apply q) := by
  unfold Query.whereCondition conditionEdit
  split <;> rfl

end

/-- Making a call is making its checks and then its edit. -/
theorem run_eq (catalog : Catalog) (q : Query) (c : BuilderCall) :
    c.run catalog q = (c.edit catalog).map (Edit.apply q) := by
  cases c with
  | start parts =>
    change Query.ofArguments parts = _
    simp only [edit]
    cases Query.ofArguments parts <;> rfl
  | ofModel m =>
    change Query.ofModel catalog m = _
    simp only [edit]
    cases Query.ofModel catalog m <;> rfl
  | select columns distinct =>
    simp only [run, edit, Query.select]
    cases Query.projection columns <;> rfl
  | fromTable table => exact (map_apply_targetOf .target).symm
  | insert table row => exact (map_apply_rowEdit .insert).symm
  | insertDefaults table => exact (map_apply_targetOf .insertDefaults).symm
  | update table row => exact (map_apply_rowEdit .update).symm
  | delete table => exact (map_apply_targetOf .delete).symm
  | whereColumn column operator value =>
    simp only [run, edit, Query.whereColumn]
    split
    · rfl
    · cases Condition.make column operator value <;> rfl
  | whereParts parts operator =>
    simp only [run, edit]
    cases Condition.ofArguments parts with
    | error e => rfl
    | ok c => exact whereCondition_eq c operator
  | whereComparison k column value operator =>
    simp only [run, edit]
    cases k.condition column value with
    | error e => rfl
    | ok c => exact whereCondition_eq c operator
  | orderBy column descending =>
    simp only [run, edit, Query.orderBy]
    cases Query.columnName column <;> rfl
  | limit n =>
    simp only [run, edit, Query.withLimit]
    cases Query.count "limit" n <;> rfl
  | offset n =>
    simp only [run, edit, Query.withOffset]
    cases Query.count "offset" n <;> rfl
  | returning columns =>
    simp only [run, edit, Query.returningColumns]
    cases columns.items? with
    | none => rfl
    | some items =>
      dsimp only
      split
      · rfl
      · cases items.mapM Query.columnName <;> rfl

end BuilderCall

/-- Of a sequence of calls all checks may be made first, and then all edits. -/
theorem Query.runCalls_eq (catalog : Catalog) (q : Query) (calls : List BuilderCall) :
    Query.runCalls catalog q calls =
      (calls.mapM (BuilderCall.edit catalog)).map fun edits => edits.foldl Edit.apply q := by
  induction calls generalizing q with
  | nil => rfl
  | cons c calls ih =>
    unfold runCalls at ih ⊢
    rw [List.foldlM_cons, List.mapM_cons, BuilderCall.run_eq]
    cases c.edit catalog with
    | error e => rfl
    | ok e =>
      change calls.foldlM (BuilderCall.run catalog) (e.apply q) = _
      rw [ih]
      simp only [bind, Except.bind]
      cases calls.mapM (BuilderCall.edit catalog) <;> rfl

end RelMap
