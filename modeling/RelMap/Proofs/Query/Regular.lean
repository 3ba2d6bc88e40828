import RelMap.Proofs.Query.Edit

/-!
# Regular queries

A caller is regular if it gives names as plain texts and starts from the empty query.  Three things
are left open: what the tables of models are called, what the conditions are like that it did not
make of a column, an operator and a value, and what its counts are like.  `Query.Regular T C N` says
what a query keeps of the calls of such a caller, for tables `T`, conditions `C` and counts `N`: its
names are checked (`Query.regular_runCalls`).
-/

namespace RelMap

/-! ## Names, counts and conditions -/

/-- A name that is given by a plain text. -/
def Value.IsText (v : Value) : Prop := ∃ s, v = .text s

/-- A checked name that was given by a plain text. -/
def Value.IsIdentifier (v : Value) : Prop :=
  ∃ s, v = .text s ∧ Identifier.isIdentifier s.toList = true

/-- A number of rows that is a plain integer. -/
def Value.IsCount (v : Value) : Prop := ∃ n : Nat, v = .int n

/-- A condition on a checked column, with what its operator compares the column with. -/
inductive Condition.IsFit : Condition → Prop
  | unary {column : Value} {op : String} :
      column.IsIdentifier → op ∈ unaryOperators → IsFit { column, operator := .text op }
  | sequence {column : Value} {op : String} (vs : List Value) :
      column.IsIdentifier → op ∈ sequenceOperators →
        IsFit { column, operator := .text op, values := some vs }
  | binary {column : Value} {op : String} (v : Value) :
      column.IsIdentifier → op ∈ binaryOperators →
        IsFit { column, operator := .text op, value := v }

/-- Column and operator of the condition are checked. -/
def Condition.IsSafe (c : Condition) : Prop :=
  c.column.IsIdentifier ∧ ∃ op ∈ operators, c.operator = .text op

theorem Condition.IsFit.isSafe {c : Condition} (hc : c.IsFit) : c.IsSafe := by
  cases hc with
  | unary hcolumn hop => exact ⟨hcolumn, _, List.mem_append_right _ hop, rfl⟩
  | sequence vs hcolumn hop =>
    exact ⟨hcolumn, _, List.mem_append_left _ (List.mem_append_right _ hop), rfl⟩
  | binary v hcolumn hop =>
    exact ⟨hcolumn, _, List.mem_append_left _ (List.mem_append_left _ hop), rfl⟩

theorem Value.IsText.isIdentifier {v : Value} (hv : v.IsText) {role : String} {n : Name}
    (h : checkName role v = .ok n) : v.IsIdentifier := by
  obtain ⟨s, rfl⟩ := hv
  obtain ⟨hs, hid⟩ := checkName_eq_ok.mp h
  cases hs
  exact ⟨s, rfl, hid⟩

theorem Condition.isFit_ofOperator {column v : Value} {op : String} {c : Condition}
    (hcolumn : column.IsIdentifier) (hop : op ∈ operators) (h : ofOperator column op v = .ok c) :
    c.IsFit := by
  unfold ofOperator at h
  by_cases hunary : unaryOperators.contains op = true
  · rw [if_pos hunary] at h
    split at h
    · cases h
      exact .unary hcolumn (List.contains_iff_mem.mp hunary)
    · cases h
  rw [if_neg hunary] at h
  by_cases hsequence : sequenceOperators.contains op = true
  · rw [if_pos hsequence] at h
    split at h
    · cases h
    · obtain ⟨vs, -, h⟩ := Result.bind_eq_ok.mp h
      cases h
      exact .sequence vs hcolumn (List.contains_iff_mem.mp hsequence)
  rw [if_neg hsequence] at h
  have hbinary : op ∈ binaryOperators := by
    rw [List.contains_iff_mem] at hunary hsequence
    simpa [operators, hunary, hsequence] using hop
  split at h
  · cases h
  · obtain ⟨p, -, h⟩ := Result.bind_eq_ok.mp h
    cases h
    exact .binary p hcolumn hbinary

/-- What is made of a column, an operator and a value is a condition on a checked column. -/
theorem Condition.isFit_make {column operator v : Value} {c : Condition} (hcolumn : column.IsText)
    (h : make column operator v = .ok c) : c.IsFit := by
  obtain ⟨n, hn, h⟩ := Result.bind_eq_ok.mp h
  cases hop : operator.textOf? with
  | none =>
    rw [hop] at h
    cases h
  | some spelling =>
    rw [hop] at h
    dsimp only at h
    split at h
    · next hknown =>
      exact isFit_ofOperator (hcolumn.isIdentifier hn) (List.contains_iff_mem.mp hknown) h
    · cases h

/-! ## Regular callers -/

section

variable (T : Value → Prop) (C : Condition → Prop) (N : Value → Prop) (catalog : Catalog)

/-- The term names no table, or one by a plain text, or that of a model, which is as `T` says. -/
def ModelTerm.IsRegular : ModelTerm → Prop
  | argument (.value v) => v.IsText
  | argument (.model m) => ∀ e, catalog.entity m = .ok e → T e.table.toValue
  | fresh _ _ => True

/-- The elements of a value that has any are plain texts. -/
def Value.HasTexts (v : Value) : Prop := ∀ items, v.items? = some items → ∀ w ∈ items, w.IsText

/-- The keys of a map are plain texts. -/
def Value.HasTextKeys (v : Value) : Prop := ∀ es, v = .map es → ∀ e ∈ es, e.1.IsText

/-- The call gives names as plain texts.  The tables of models are as `T` says, conditions that are
put together from parts as `C` says, and counts that are accepted as `N` says. -/
def BuilderCall.IsRegular : BuilderCall → Prop
  | start parts => parts = []
  | ofModel m => (ModelTerm.argument (.model m)).IsRegular T catalog
  | select columns _ => columns.textOf? = none → columns.HasTexts
  | fromTable table => table.IsRegular T catalog
  | insert table row => table.IsRegular T catalog ∧ row.HasTextKeys
  | insertDefaults table => table.IsRegular T catalog
  | update table row => table.IsRegular T catalog ∧ row.HasTextKeys
  | delete table => table.IsRegular T catalog
  | whereColumn column _ _ => column.IsText
  | whereParts parts _ => ∀ c, Condition.ofArguments parts = .ok c → C c
  | whereComparison _ column _ _ => column.IsText
  | orderBy column _ => column.IsText
  | limit n => ∀ v, Query.count "limit" n = .ok v → N v
  | offset n => ∀ v, Query.count "offset" n = .ok v → N v
  | returning columns => columns.HasTexts

/-- A query whose names are checked, and whose table, conditions and counts are as `T`, `C` and `N`
say. -/
structure Query.Regular (q : Query) : Prop where
  kind : q.kind = .null ∨ ∃ k : Kind, q.kind = k.toValue
  table : q.table.isNull = true ∨ T q.table
  columns : ∀ v ∈ q.columns, v = allColumns ∨ v.IsIdentifier
  values : ∀ c ∈ q.values, c.1.IsIdentifier
  defaults : q.defaultValues.truthy = true → q.values = []
  assignments : ∀ c ∈ q.assignments, c.1.IsIdentifier
  conditions : ∀ c ∈ q.conditions, C c
  ordering : ∀ o ∈ q.ordering, o.column.IsIdentifier
  limit : q.limit = .null ∨ N q.limit
  offset : q.offset = .null ∨ N q.offset
  returning : ∀ v ∈ q.returning, v.IsIdentifier

/-- The edit brings what a regular query may have. -/
def Query.Edit.IsRegular : Query.Edit → Prop
  | become q => q.Regular T C N
  | select columns _ => ∀ v ∈ columns, v = allColumns ∨ v.IsIdentifier
  | target table _ => T table
  | insert row table _ => (∀ c ∈ row, c.1.IsIdentifier) ∧ T table
  | insertDefaults table _ => T table
  | update row table _ => (∀ c ∈ row, c.1.IsIdentifier) ∧ T table
  | delete table _ => T table
  | addCondition c => C c
  | addOrdering o => o.column.IsIdentifier
  | limit n => N n
  | offset n => N n
  | returning columns => ∀ v ∈ columns, v.IsIdentifier

end

variable {T : Value → Prop} {P C : Condition → Prop} {N : Value → Prop} {catalog : Catalog}
  {q q' : Query}

namespace Query

theorem regular_start : Regular T C N {} :=
  ⟨.inl rfl, .inl rfl, nofun, nofun, nofun, nofun, nofun, nofun, .inl rfl, .inl rfl, nofun⟩

theorem Regular.apply (hq : q.Regular T C N) {e : Edit} (he : e.IsRegular T C N) :
    (e.apply q).Regular T C N := by
  cases e with
  | become r => exact he
  | select columns distinct => exact { hq with kind := .inr ⟨.select, rfl⟩, columns := he }
  | target table model => exact { hq with table := .inr he }
  | insert row table model =>
    exact { hq with
      kind := .inr ⟨.insert, rfl⟩, values := he.1, defaults := nofun, table := .inr he.2 }
  | insertDefaults table model =>
    exact { hq with
      kind := .inr ⟨.insert, rfl⟩, values := nofun, defaults := fun _ => rfl, table := .inr he }
  | update row table model =>
    exact { hq with kind := .inr ⟨.update, rfl⟩, assignments := he.1, table := .inr he.2 }
  | delete table model => exact { hq with kind := .inr ⟨.delete, rfl⟩, table := .inr he }
  | addCondition c =>
    refine { hq with conditions := ?_ }
    simpa [Edit.apply, or_imp, forall_and] using ⟨hq.conditions, he⟩
  | addOrdering o =>
    refine { hq with ordering := ?_ }
    simpa [Edit.apply, or_imp, forall_and] using ⟨hq.ordering, he⟩
  | limit n => exact { hq with limit := .inr he }
  | offset n => exact { hq with offset := .inr he }
  | returning columns => exact { hq with returning := he }

theorem Regular.foldl_apply (hq : q.Regular T C N) {edits : List Edit}
    (hedits : ∀ e ∈ edits, e.IsRegular T C N) : (edits.foldl Edit.apply q).Regular T C N := by
  induction edits generalizing q with
  | nil => exact hq
  | cons e edits ih =>
    rw [List.forall_mem_cons] at hedits
    exact ih (hq.apply hedits.1) hedits.2

/-! ## Checks of names and counts -/

theorem columnName_eq_ok {v w : Value} (hv : v.IsText) (h : columnName v = .ok w) :
    w = v ∧ v.IsIdentifier := by
  obtain ⟨s, rfl⟩ := hv
  obtain ⟨n, hn, rfl⟩ := Result.map_eq_ok.mp h
  obtain ⟨hs, hid⟩ := checkName_eq_ok.mp hn
  cases hs
  exact ⟨rfl, s, rfl, hid⟩

theorem isIdentifier_of_columnName {v w : Value} (hv : v.IsText) (h : columnName v = .ok w) :
    w.IsIdentifier := by
  obtain ⟨rfl, hid⟩ := columnName_eq_ok hv h
  exact hid

theorem isIdentifier_of_columnNames {vs ws : List Value} (hvs : ∀ v ∈ vs, v.IsText)
    (h : vs.mapM columnName = .ok ws) : ∀ w ∈ ws, w.IsIdentifier := by
  intro w hw
  obtain ⟨v, hv, hname⟩ := Result.exists_mem_of_mapM_eq_ok h hw
  exact isIdentifier_of_columnName (hvs v hv) hname

theorem isIdentifier_of_cells {row : Value} {cs : List Cell} (hrow : row.HasTextKeys)
    (h : cells row = .ok cs) : ∀ c ∈ cs, c.1.IsIdentifier := by
  unfold cells at h
  split at h
  · next es =>
    intro c hc
    obtain ⟨e, he, hcell⟩ := Result.exists_mem_of_mapM_eq_ok h hc
    obtain ⟨n, hn, hcell⟩ := Result.bind_eq_ok.mp hcell
    obtain ⟨p, -, hcell⟩ := Result.bind_eq_ok.mp hcell
    cases hcell
    exact isIdentifier_of_columnName (hrow es rfl e he) hn
  · cases h

theorem isIdentifier_of_projection {columns : Value} {names : List Value}
    (hcolumns : columns.textOf? = none → columns.HasTexts) (h : projection columns = .ok names) :
    ∀ v ∈ names, v = allColumns ∨ v.IsIdentifier := by
  unfold projection at h
  split at h
  · dsimp only at h
    split at h
    · cases h
      simp
    · cases h
  · next htext =>
    split at h
    · next items hitems =>
      intro v hv
      exact .inr (isIdentifier_of_columnNames (hcolumns htext items hitems) h v hv)
    · cases h

/-- An accepted count is a natural number, plain or labelled, and it is kept as it was given. -/
theorem exists_of_count {clause : String} {v w : Value} (h : count clause v = .ok w) :
    w = v ∧ ∃ n : Nat, v = .int n ∨ ∃ label, v = .intConstant label n := by
  unfold count at h
  split at h
  · cases h
  · next m hbool hm =>
    split at h
    · cases h
    · next hneg =>
      cases h
      obtain ⟨n, rfl⟩ := Int.eq_ofNat_of_zero_le (Int.not_lt.mp hneg)
      refine ⟨rfl, n, ?_⟩
      cases w with
      | int k =>
        cases hm
        exact .inl rfl
      | intConstant label k =>
        cases hm
        exact .inr ⟨label, rfl⟩
      | bool b => exact (hbool b rfl).elim
      | _ => cases hm
  · cases h

theorem table_of_target (hT : ∀ v, v.IsIdentifier → T v) {table : ModelTerm}
    (htable : table.IsRegular T catalog) {a : ModelArgument} (ha : table.evaluate catalog = .ok a)
    {t : Value × Option ModelId} (h : target catalog a = .ok t) : T t.1 := by
  cases table with
  | argument b =>
    cases ha
    cases a with
    | model m =>
      obtain ⟨e, he, h⟩ := Result.bind_eq_ok.mp h
      cases h
      exact htable e he
    | value v =>
      obtain ⟨n, hn, h⟩ := Result.bind_eq_ok.mp h
      cases h
      exact hT v (htable.isIdentifier hn)
  | fresh m arguments =>
    -- An instance is no name.
    obtain ⟨i, -, rfl⟩ := Result.map_eq_ok.mp ha
    obtain ⟨n, hn, -⟩ := Result.bind_eq_ok.mp h
    have hrecord : Name.ofValue? (catalog.valueOf i) = none := by
      unfold Catalog.valueOf Catalog.recordOf
      cases catalog.fieldValues i <;> rfl
    have hname := (checkName_eq_ok.mp hn).1
    rw [hrecord] at hname
    cases hname

end Query

/-! ## Calls -/

open Query

section

variable (hT : ∀ v, v.IsIdentifier → T v) (hP : ∀ c, P c → C c) (hC : ∀ c, c.IsFit → C c)

include hT hP hC

/-- A regular call stands for a regular edit. -/
theorem BuilderCall.IsRegular.edit {c : BuilderCall} (hc : c.IsRegular T P N catalog) {e : Edit}
    (h : c.edit catalog = .ok e) : e.IsRegular T C N := by
  have htarget {table : ModelTerm} (htable : table.IsRegular T catalog)
      {t : Value × Option ModelId} (ht : targetOf catalog table = .ok t) : T t.1 := by
    obtain ⟨a, ha, ht⟩ := Result.bind_eq_ok.mp ht
    exact table_of_target hT htable ha ht
  have hcondition {x : Condition} {operator : Value} (hx : C x)
      (h : conditionEdit x operator = .ok e) : e.IsRegular T C N := by
    rw [conditionEdit_eq_ok h]
    exact hx
  cases c with
  | start parts =>
    cases hc
    cases h
    exact regular_start
  | ofModel m =>
    obtain ⟨r, hr, rfl⟩ := Result.map_eq_ok.mp h
    obtain ⟨-, -, hr⟩ := Result.bind_eq_ok.mp hr
    obtain ⟨s, hs, hr⟩ := Result.bind_eq_ok.mp hr
    obtain ⟨t, ht, hr⟩ := Result.bind_eq_ok.mp hr
    obtain ⟨names, hnames, hs⟩ := Result.bind_eq_ok.mp hs
    cases hr
    cases hs
    obtain rfl : names = [allColumns] := (Except.ok.inj hnames).symm
    have hmodel : (ModelTerm.argument (.model m)).IsRegular T catalog := hc
    have htable : T t.1 := table_of_target hT hmodel rfl ht
    have hstart : Regular T C N {} := regular_start
    exact { hstart with
      kind := .inr ⟨.select, rfl⟩
      table := .inr htable
      columns := fun v hv => .inl (List.mem_singleton.mp hv) }
  | select columns distinct =>
    obtain ⟨names, hnames, rfl⟩ := Result.map_eq_ok.mp h
    exact isIdentifier_of_projection hc hnames
  | fromTable table =>
    obtain ⟨t, ht, rfl⟩ := Result.map_eq_ok.mp h
    exact htarget hc ht
  | insert table row =>
    obtain ⟨cs, t, hcs, ht, rfl⟩ := rowEdit_eq_ok h
    exact ⟨isIdentifier_of_cells hc.2 hcs, htarget hc.1 ht⟩
  | insertDefaults table =>
    obtain ⟨t, ht, rfl⟩ := Result.map_eq_ok.mp h
    exact htarget hc ht
  | update table row =>
    obtain ⟨cs, t, hcs, ht, rfl⟩ := rowEdit_eq_ok h
    exact ⟨isIdentifier_of_cells hc.2 hcs, htarget hc.1 ht⟩
  | delete table =>
    obtain ⟨t, ht, rfl⟩ := Result.map_eq_ok.mp h
    exact htarget hc ht
  | whereColumn column operator value =>
    simp only [BuilderCall.edit] at h
    split at h
    · cases h
    · obtain ⟨x, hx, rfl⟩ := Result.map_eq_ok.mp h
      exact hC x (Condition.isFit_make hc hx)
  | whereParts parts operator =>
    obtain ⟨x, hx, h⟩ := Result.bind_eq_ok.mp h
    exact hcondition (hP x (hc x hx)) h
  | whereComparison k column value operator =>
    obtain ⟨x, hx, h⟩ := Result.bind_eq_ok.mp h
    unfold Comparison.condition at hx
    split at hx
    · exact hcondition (hC x (Condition.isFit_make hc hx)) h
    · cases hx
  | orderBy column descending =>
    obtain ⟨n, hn, rfl⟩ := Result.map_eq_ok.mp h
    exact isIdentifier_of_columnName hc hn
  | limit n =>
    obtain ⟨v, hv, rfl⟩ := Result.map_eq_ok.mp h
    exact hc v hv
  | offset n =>
    obtain ⟨v, hv, rfl⟩ := Result.map_eq_ok.mp h
    exact hc v hv
  | returning columns =>
    simp only [BuilderCall.edit] at h
    split at h
    · cases h
    · next items hitems =>
      split at h
      · cases h
      · obtain ⟨names, hnames, rfl⟩ := Result.map_eq_ok.mp h
        exact isIdentifier_of_columnNames (hc items hitems) hnames

theorem Query.regular_mapM_edit {calls : List BuilderCall}
    (hcalls : ∀ c ∈ calls, c.IsRegular T P N catalog) {edits : List Edit}
    (h : calls.mapM (BuilderCall.edit catalog) = .ok edits) : ∀ e ∈ edits, e.IsRegular T C N := by
  intro e he
  obtain ⟨c, hc, hedit⟩ := Result.exists_mem_of_mapM_eq_ok h he
  exact (hcalls c hc).edit hT hP hC hedit

/-- A regular caller makes regular queries. -/
theorem Query.regular_runCalls {calls : List BuilderCall}
    (hcalls : ∀ c ∈ calls, c.IsRegular T P N catalog) (h : runCalls catalog {} calls = .ok q) :
    q.Regular T C N := by
  rw [runCalls_eq] at h
  obtain ⟨edits, hedits, rfl⟩ := Result.map_eq_ok.mp h
  exact regular_start.foldl_apply (regular_mapM_edit hT hP hC hcalls hedits)

end

end RelMap
