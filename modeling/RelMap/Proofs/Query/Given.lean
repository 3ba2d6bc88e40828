import RelMap.Proofs.Query.Clause
import RelMap.Proofs.Query.Regular

/-!
# What the calls of a builder gave

`Given.ofCalls` reads off the calls alone which values a caller gave and for which columns: the row
of the last insertion, the assignments of the last update, and all tests in their order.

`BuilderCall.Brings` says what an accepted call brings a query of that.  What holds of the given and
of the query before such a call, and is kept by it, holds after a run of calls (`Given.of_runCalls`).
So what a query keeps of the calls of a regular caller fits what they gave (`Given.fits_runCalls`),
if the caller puts no conditions together from parts.
-/

namespace RelMap

def Value.nameText (v : Value) : String := v.textOf?.getD ""

/-- What the calls of a builder gave. -/
structure Given where
  row : List (String × Value) := []
  assigned : List (String × Value) := []
  tests : List Clause := []

namespace Given

/-- The columns of a map, with the values that they were given. -/
def entries : Value → List (String × Value)
  | .map es => es.map fun e => (e.1.nameText, e.2)
  | _ => []

/-- The test that a column, an operator and a value make. -/
def test (column operator given : Value) : Clause :=
  .test column.nameText (normalizeOperator operator.nameText) given

/-- What has been given after a further call; a builder that begins anew has been given nothing. -/
def add (g : Given) : BuilderCall → Given
  | .start _ => {}
  | .ofModel _ => {}
  | .insert _ row => { g with row := entries row }
  | .insertDefaults _ => { g with row := [] }
  | .update _ row => { g with assigned := entries row }
  | .whereColumn column operator value =>
    { g with tests := g.tests ++ [test column operator value] }
  | .whereComparison c column value _ =>
    { g with tests := g.tests ++ [test column (.text c.operator) (value.getD .null)] }
  | _ => g

def ofCalls (calls : List BuilderCall) : Given := calls.foldl add {}

/-- The clauses of the statement, in their order. -/
def clauses (g : Given) : List Clause :=
  (if g.row.isEmpty then [] else [.row g.row]) ++
    g.assigned.map (fun e => .assignment e.1 e.2) ++ g.tests

end Given

/-! ## What calls bring -/

/-- The call goes on with a query, and the condition that it gives is made of a column, an operator
and a value. -/
def BuilderCall.Continues : BuilderCall → Prop
  | start _ => False
  | ofModel _ => False
  | whereParts _ _ => False
  | _ => True

/-- The queries have the same rows, assignments and conditions. -/
structure Query.SameParts (q r : Query) : Prop where
  values : q.values = r.values
  defaults : q.defaultValues = r.defaultValues
  assignments : q.assignments = r.assignments
  conditions : q.conditions = r.conditions

/-- What an accepted call that goes on with a query brings it: a row, assignments or a test, or
nothing of that kind. -/
inductive BuilderCall.Brings : BuilderCall → Query.Edit → Prop
  | row {table : ModelTerm} {row : Value} {cs : List Cell} (name : Value) (model : Option ModelId)
      (hcs : Query.cells row = .ok cs) : Brings (.insert table row) (.insert cs name model)
  | defaults (table : ModelTerm) (name : Value) (model : Option ModelId) :
      Brings (.insertDefaults table) (.insertDefaults name model)
  | assignments {table : ModelTerm} {row : Value} {cs : List Cell} (name : Value)
      (model : Option ModelId) (hcs : Query.cells row = .ok cs) :
      Brings (.update table row) (.update cs name model)
  | test {column operator value : Value} {c : Condition}
      (hmade : Condition.make column operator value = .ok c) :
      Brings (.whereColumn column operator value) (.addCondition c)
  | comparison {k : Comparison} {column operator : Value} {value : Option Value} {c : Condition}
      (hmade : Condition.make column (.text k.operator) (value.getD .null) = .ok c) :
      Brings (.whereComparison k column value operator) (.addCondition c)
  | nothing {c : BuilderCall} {e : Query.Edit} (hadd : ∀ g : Given, g.add c = g)
      (hsame : ∀ q, (e.apply q).SameParts q) : Brings c e

theorem BuilderCall.brings_of_edit {catalog : Catalog} {c : BuilderCall} {e : Query.Edit}
    (h : c.edit catalog = .ok e) (hc : c.Continues) : c.Brings e := by
  cases c with
  | start parts => exact hc.elim
  | ofModel m => exact hc.elim
  | whereParts parts operator => exact hc.elim
  | insert table row =>
    obtain ⟨cs, t, hcs, -, rfl⟩ := rowEdit_eq_ok h
    exact .row _ _ hcs
  | insertDefaults table =>
    obtain ⟨t, -, rfl⟩ := Result.map_eq_ok.mp h
    exact .defaults _ _ _
  | update table row =>
    obtain ⟨cs, t, hcs, -, rfl⟩ := rowEdit_eq_ok h
    exact .assignments _ _ hcs
  | whereColumn column operator value =>
    simp only [edit] at h
    split at h
    · cases h
    · obtain ⟨x, hx, rfl⟩ := Result.map_eq_ok.mp h
      exact .test hx
  | whereComparison k column value operator =>
    obtain ⟨x, hx, h⟩ := Result.bind_eq_ok.mp h
    rw [conditionEdit_eq_ok h]
    unfold Comparison.condition at hx
    split at hx
    · exact .comparison hx
    · cases hx
  | returning columns =>
    simp only [edit] at h
    split at h
    · cases h
    · split at h
      · cases h
      · obtain ⟨names, -, rfl⟩ := Result.map_eq_ok.mp h
        exact .nothing (fun _ => rfl) fun _ => ⟨rfl, rfl, rfl, rfl⟩
  | _ =>
    obtain ⟨x, -, rfl⟩ := Result.map_eq_ok.mp h
    exact .nothing (fun _ => rfl) fun _ => ⟨rfl, rfl, rfl, rfl⟩

/-! ## What queries keep -/

/-- The cell of a row for a column and a value. -/
def Given.cell (e : String × Value) : Result Cell := Query.cell (.text e.1, e.2)

def Clause.condition : Clause → Result Condition
  | test column op given => do
    let _ ← checkName "column name" (.text column)
    if operators.contains op then Condition.ofOperator (.text column) op given
    else .error (.unsupportedOperator (.text op))
  | _ => .error (.fault .wrongType)

/-- What a query keeps fits what was given. -/
structure Given.Fits (g : Given) (q : Query) : Prop where
  values : g.row.mapM Given.cell = .ok q.values
  assignments : g.assigned.mapM Given.cell = .ok q.assignments
  conditions : g.tests.mapM Clause.condition = .ok q.conditions
  defaults : q.defaultValues.truthy = true → q.values = []

theorem Query.cells_eq_ok {row : Value} {cs : List Cell} (hrow : row.HasTextKeys)
    (h : cells row = .ok cs) : (Given.entries row).mapM Given.cell = .ok cs := by
  unfold cells at h
  split at h
  · next es =>
    have hcell : ∀ e ∈ es, Given.cell (e.1.nameText, e.2) = cell e := by
      intro e he
      obtain ⟨s, hs⟩ := hrow es rfl e he
      obtain ⟨k, v⟩ := e
      cases hs
      rfl
    rw [← h]
    unfold Given.entries
    rw [List.mapM_map]
    exact Result.mapM_congr hcell
  · cases h

theorem Clause.condition_of_make {column operator given : Value} {c : Condition}
    (hcolumn : column.IsText) (h : Condition.make column operator given = .ok c) :
    (Given.test column operator given).condition = .ok c := by
  obtain ⟨s, rfl⟩ := hcolumn
  obtain ⟨n, hn, h⟩ := Result.bind_eq_ok.mp h
  split at h
  · cases h
  · next spelling hspelling =>
    have htext : operator.nameText = spelling := by
      unfold Value.nameText
      rw [hspelling]
      rfl
    refine Result.bind_eq_ok.mpr ⟨n, hn, ?_⟩
    rw [htext]
    dsimp only at h
    split at h
    · next hop => rw [if_pos hop, ← h]; rfl
    · cases h

namespace Given

variable {T N : Value → Prop} {C : Condition → Prop} {g : Given} {q q' : Query}
  {catalog : Catalog}

theorem fits_start : Fits {} {} := ⟨List.mapM_nil, List.mapM_nil, List.mapM_nil, nofun⟩

namespace Fits

/-- A further test fits the condition that it makes. -/
theorem addTest (hg : g.Fits q) {t : Clause} {c : Condition} (h : t.condition = .ok c) :
    Fits { g with tests := g.tests ++ [t] } { q with conditions := q.conditions ++ [c] } := by
  have htests := Result.mapM_append_eq_ok hg.conditions
    (Result.mapM_cons_eq_ok.mpr ⟨c, [], h, List.mapM_nil, rfl⟩)
  exact { hg with conditions := htests }

/-- What a regular call brings a query fits what the call gave. -/
theorem brings (hg : g.Fits q) {c : BuilderCall} (hc : c.IsRegular T C N catalog) {e : Query.Edit}
    (h : c.Brings e) : (g.add c).Fits (e.apply q) := by
  cases h with
  | row name model hcs =>
    exact { hg with values := Query.cells_eq_ok hc.2 hcs, defaults := nofun }
  | defaults table name model => exact { hg with values := rfl, defaults := fun _ => rfl }
  | assignments name model hcs => exact { hg with assignments := Query.cells_eq_ok hc.2 hcs }
  | test hmade => exact hg.addTest (Clause.condition_of_make hc hmade)
  | comparison hmade => exact hg.addTest (Clause.condition_of_make hc hmade)
  | nothing hadd hsame =>
    obtain ⟨hvalues, hdefaults, hassignments, hconditions⟩ := hsame q
    rw [hadd]
    refine ⟨?_, ?_, ?_, ?_⟩
    · rw [hvalues]
      exact hg.values
    · rw [hassignments]
      exact hg.assignments
    · rw [hconditions]
      exact hg.conditions
    · rw [hdefaults, hvalues]
      exact hg.defaults

theorem ofModel {m : ModelId} {e : Query.Edit}
    (h : (BuilderCall.ofModel m).edit catalog = .ok e) : Fits {} (e.apply q) := by
  obtain ⟨r, hr, rfl⟩ := Result.map_eq_ok.mp h
  obtain ⟨-, -, hr⟩ := Result.bind_eq_ok.mp hr
  obtain ⟨s, hs, hr⟩ := Result.bind_eq_ok.mp hr
  obtain ⟨names, -, hs⟩ := Result.bind_eq_ok.mp hs
  obtain ⟨t, -, hr⟩ := Result.bind_eq_ok.mp hr
  cases hs
  cases hr
  exact { fits_start with }

/-- What a query keeps goes on to fit after a further call. -/
theorem edit (hg : g.Fits q) {c : BuilderCall} (hc : c.IsRegular T (fun _ => False) N catalog)
    {e : Query.Edit} (h : c.edit catalog = .ok e) : (g.add c).Fits (e.apply q) := by
  cases c with
  | start parts =>
    cases hc
    cases h
    exact fits_start
  | ofModel m => exact ofModel h
  | whereParts parts operator =>
    obtain ⟨c, hmade, -⟩ := Result.bind_eq_ok.mp h
    exact (hc c hmade).elim
  | _ => exact hg.brings hc (BuilderCall.brings_of_edit h trivial)

end Fits

/-- What every accepted call preserves of what was given and the query, a run of calls does. -/
theorem of_runCalls {P : Given → Query → Prop} {calls : List BuilderCall}
    (hstep : ∀ c ∈ calls, ∀ e, c.edit catalog = .ok e → ∀ g q, P g q → P (g.add c) (e.apply q))
    (hg : P g q) (h : Query.runCalls catalog q calls = .ok q') : P (calls.foldl add g) q' := by
  induction calls generalizing g q with
  | nil =>
    cases h
    exact hg
  | cons c calls ih =>
    unfold Query.runCalls at h
    rw [List.foldlM_cons] at h
    obtain ⟨r, hr, h⟩ := Result.bind_eq_ok.mp h
    rw [BuilderCall.run_eq] at hr
    obtain ⟨e, he, rfl⟩ := Result.map_eq_ok.mp hr
    rw [List.forall_mem_cons] at hstep
    exact ih hstep.2 (hstep.1 e he g q hg) h

/-- What a query keeps of its calls fits what the calls gave. -/
theorem fits_runCalls {calls : List BuilderCall} (hg : g.Fits q)
    (hcalls : ∀ c ∈ calls, c.IsRegular T (fun _ => False) N catalog)
    (h : Query.runCalls catalog q calls = .ok q') : (calls.foldl add g).Fits q' :=
  of_runCalls (fun c hc _ he _ _ hg => hg.edit (hcalls c hc) he) hg h

end Given

end RelMap
