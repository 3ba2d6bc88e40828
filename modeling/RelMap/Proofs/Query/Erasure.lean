import Mathlib.Data.List.Forall2
import RelMap.Query.Statement
import RelMap.Proofs.Query.Edit

/-!
# Erasure of values

Erasure takes the values out of a query, of the pieces of a statement and of a statement, and keeps
everything else: names, operators, how many elements a sequence has.  Erasing and then building is
the same as building and then erasing (`Query.build_erase`), so what a query is written as depends on
its erasure alone.

Two calls of the builder are alike if they differ in values only.  Calls that are alike make queries
with one erasure (`Query.erase_runCalls`), and so their statements have one text
(`Query.text_independent`).
-/

namespace RelMap

/-! ## Erasure -/

def eraseValues (vs : List Value) : List Value := vs.map fun _ => .null

def eraseCells (cells : List Cell) : List Cell := cells.map fun c => (c.1, .null)

def Condition.erase (c : Condition) : Condition :=
  { c with value := .null, values := c.values.map eraseValues }

def Query.erase (q : Query) : Query :=
  { q with
    values := eraseCells q.values
    assignments := eraseCells q.assignments
    conditions := q.conditions.map Condition.erase }

def Piece.erase : Piece → Piece
  | hole _ => hole .null
  | p => p

def Statement.erase (st : Statement) : Statement := { st with params := eraseValues st.params }

theorem eraseValues_eq_iff {vs ws : List Value} :
    eraseValues vs = eraseValues ws ↔ vs.length = ws.length := by
  simp [eraseValues, List.map_const']

theorem eraseCells_fst (cells : List Cell) :
    (eraseCells cells).map Prod.fst = cells.map Prod.fst := by
  simp [eraseCells]

theorem eraseCells_eq_iff {cells cells' : List Cell} :
    eraseCells cells = eraseCells cells' ↔ cells.map Prod.fst = cells'.map Prod.fst := by
  constructor
  · intro h
    rw [← eraseCells_fst cells, ← eraseCells_fst cells', h]
  · intro h
    have hnull := congrArg (List.map fun v => ((v, .null) : Cell)) h
    rw [List.map_map, List.map_map] at hnull
    exact hnull

theorem eraseCells_snd (cells : List Cell) :
    (eraseCells cells).map Prod.snd = eraseValues (cells.map Prod.snd) := by
  simp [eraseCells, eraseValues]

/-! ## Pieces -/

namespace Piece

theorem map_erase_separated (sep : String) (groups : List (List Piece)) :
    (separated sep groups).map erase = separated sep (groups.map (List.map erase)) := by
  induction groups with
  | nil => rfl
  | cons group rest ih =>
    cases rest with
    | nil => rfl
    | cons other rest =>
      simp only [separated, List.map_cons, List.map_append] at ih ⊢
      rw [ih]
      rfl

theorem map_erase_nameList (names : List Value) : (nameList names).map erase = nameList names := by
  rw [nameList, map_erase_separated, List.map_map]
  rfl

theorem map_erase_holeList (vs : List Value) :
    (holeList vs).map erase = holeList (eraseValues vs) := by
  rw [holeList, map_erase_separated, holeList, eraseValues, List.map_map, List.map_map]
  rfl

/-- Values are not written. -/
theorem write_erase (style : ParamStyle) (k : Nat) (ps : List Piece) :
    write style k (ps.map erase) = write style k ps := by
  induction ps generalizing k with
  | nil => rfl
  | cons p ps ih =>
    cases p <;> simp only [List.map_cons, erase, write, ih]

theorem holes_erase (ps : List Piece) : holes (ps.map erase) = eraseValues (holes ps) := by
  induction ps with
  | nil => rfl
  | cons p ps ih =>
    cases p with
    | hole v => exact congrArg (.null :: ·) ih
    | _ => exact ih

end Piece

open Piece (map_erase_separated map_erase_nameList map_erase_holeList)

theorem Condition.pieces_erase (c : Condition) : c.erase.pieces = c.pieces.map Piece.erase := by
  have hunary : c.erase.isUnary = c.isUnary := rfl
  unfold pieces
  rw [hunary]
  split
  · rfl
  · cases hvalues : c.values with
    | none => simp [erase, hvalues, Piece.erase]
    | some vs =>
      cases vs with
      | nil =>
        simp only [erase, hvalues]
        rfl
      | cons v vs =>
        simp only [erase, hvalues, Option.map_some, List.map_append, map_erase_holeList]
        rfl

namespace Query

variable {q q' : Query} {catalog : Catalog}

/-! ## Queries -/

theorem has_erase (q : Query) (p : Part) : q.erase.has p = q.has p := by
  cases p <;> simp [has, erase, eraseCells]

theorem forbid_erase (q : Query) (parts : List Part) : q.erase.forbid parts = q.forbid parts := by
  have hhas : q.erase.has = q.has := funext q.has_erase
  rw [forbid, hhas]
  rfl

theorem validateParts_erase (q : Query) (k : Kind) :
    q.erase.validateParts k = q.validateParts k := by
  have hvalues : q.erase.values.isEmpty = q.values.isEmpty := List.isEmpty_map
  have hassignments : q.erase.assignments.isEmpty = q.assignments.isEmpty := List.isEmpty_map
  cases k <;> simp only [validateParts, forbid_erase, hvalues, hassignments] <;> rfl

theorem mentioned_erase (q : Query) : q.erase.mentioned = q.mentioned := by
  have hcolumns : (q.conditions.map Condition.erase).map Condition.column =
      q.conditions.map Condition.column := by
    rw [List.map_map]
    rfl
  simp [mentioned, erase, eraseCells_fst, hcolumns]

theorem validate_erase (q : Query) (catalog : Catalog) (d : Dialect) :
    q.erase.validate catalog d = q.validate catalog d := by
  simp only [validate, validateColumns, validateParts_erase, mentioned_erase]
  rfl

theorem wherePieces_erase (q : Query) :
    q.erase.wherePieces = q.wherePieces.map Piece.erase := by
  have hpieces : (q.conditions.map Condition.erase).map Condition.pieces =
      (q.conditions.map Condition.pieces).map (List.map Piece.erase) := by
    rw [List.map_map, List.map_map]
    exact List.map_congr_left fun c _ => c.pieces_erase
  simp only [wherePieces, erase, List.isEmpty_map, hpieces]
  split
  · rfl
  · rw [List.map_cons, map_erase_separated]
    rfl

theorem orderPieces_erase (q : Query) : q.orderPieces.map Piece.erase = q.orderPieces := by
  unfold orderPieces
  split
  · rfl
  · rw [List.map_cons, map_erase_separated, List.map_map]
    rfl

theorem insertPieces_erase (q : Query) :
    q.erase.insertPieces = q.insertPieces.map Piece.erase := by
  have hnames : q.erase.values.map Prod.fst = q.values.map Prod.fst := eraseCells_fst q.values
  have hvalues : q.erase.values.map Prod.snd = eraseValues (q.values.map Prod.snd) :=
    eraseCells_snd q.values
  have hdefaults : q.erase.defaultValues = q.defaultValues := rfl
  simp only [insertPieces, hnames, hvalues, hdefaults]
  split
  · rfl
  · simp only [List.map_append, map_erase_nameList, map_erase_holeList]
    rfl

theorem updatePieces_erase (q : Query) :
    q.erase.updatePieces = q.updatePieces.map Piece.erase := by
  have hpieces : (q.erase.assignments.map fun a =>
        [Piece.name a.1, .fixed " = ", .hole a.2]) =
      (q.assignments.map fun a => [Piece.name a.1, .fixed " = ", .hole a.2]).map
        (List.map Piece.erase) := by
    simp [erase, eraseCells, Piece.erase]
  simp only [updatePieces, hpieces, wherePieces_erase, List.map_append, map_erase_separated]
  rfl

theorem selectPieces_erase (q : Query) (d : Dialect) :
    q.erase.selectPieces d = (q.selectPieces d).map Piece.erase := by
  have hlimit : q.limitPieces.map Piece.erase = q.limitPieces := by
    unfold limitPieces
    split <;> rfl
  have hoffset : (q.offsetPieces d).map Piece.erase = q.offsetPieces d := by
    unfold offsetPieces
    split
    · rfl
    · split <;> rfl
  simp only [selectPieces, wherePieces_erase, List.map_append, List.map_cons, map_erase_nameList,
    orderPieces_erase, hlimit, hoffset]
  rfl

/-- The pieces of an erased query are the erased pieces of the query. -/
theorem pieces_erase (q : Query) (k : Kind) (d : Dialect) :
    q.erase.pieces k d = (q.pieces k d).map Piece.erase := by
  have hreturning : q.returningPieces.map Piece.erase = q.returningPieces := by
    unfold returningPieces
    split
    · rfl
    · rw [List.map_cons, map_erase_nameList]
      rfl
  simp only [pieces, List.map_append, hreturning]
  cases k with
  | select => exact congrArg (· ++ _) (q.selectPieces_erase d)
  | insert => exact congrArg (· ++ _) q.insertPieces_erase
  | update => exact congrArg (· ++ _) q.updatePieces_erase
  | delete => exact congrArg (_ ++ · ++ _) q.wherePieces_erase

/-- Erasing and then building is the same as building and then erasing. -/
theorem build_erase (q : Query) (catalog : Catalog) (d : Dialect) :
    q.erase.build catalog d = (q.build catalog d).map Statement.erase := by
  unfold build
  rw [validate_erase]
  cases q.validate catalog d with
  | error e => rfl
  | ok k =>
    simp only [pieces_erase, bind, Except.bind, Piece.write_erase, Piece.holes_erase]
    cases Piece.write d.style 1 (q.pieces k d) with
    | error e => rfl
    | ok sql => rfl

end Query

/-! ## Calls -/

/-- Two values have as many elements, if the operator compares with the elements of a value. -/
def SameExtent (operator : String) (v w : Value) : Prop :=
  sequenceOperators.contains operator = true →
    (v.items?.getD []).length = (w.items?.getD []).length

/-- The calls differ at most in the values that they give. -/
inductive BuilderCall.Alike : BuilderCall → BuilderCall → Prop
  | same (c : BuilderCall) : Alike c c
  | insert (table : ModelTerm) {es es' : List (Value × Value)} :
      es.map Prod.fst = es'.map Prod.fst → Alike (.insert table (.map es)) (.insert table (.map es'))
  | update (table : ModelTerm) {es es' : List (Value × Value)} :
      es.map Prod.fst = es'.map Prod.fst → Alike (.update table (.map es)) (.update table (.map es'))
  | whereColumn (column operator : Value) {v w : Value} :
      SameExtent (normalizeOperator (operator.textOf?.getD "")) v w →
        Alike (.whereColumn column operator v) (.whereColumn column operator w)
  | whereComparison (c : Comparison) (column operator : Value) {v w : Option Value} :
      SameExtent (normalizeOperator c.operator) (v.getD .null) (w.getD .null) →
        Alike (.whereComparison c column v operator) (.whereComparison c column w operator)
  /-- Conditions from parts have the same column and operator and as many values. -/
  | whereParts (operator : Value) {parts parts' : Arguments} :
      (Condition.ofArguments parts).map Condition.erase =
          (Condition.ofArguments parts').map Condition.erase →
        Alike (.whereParts parts operator) (.whereParts parts' operator)

theorem Condition.erase_ofOperator {column v : Value} {op : String} {c : Condition}
    (h : ofOperator column op v = .ok c) :
    c.erase = {
      column, operator := .text op
      values :=
        if unaryOperators.contains op then none
        else if sequenceOperators.contains op then some (eraseValues (v.items?.getD []))
        else none } := by
  unfold ofOperator at h
  split at h
  · next hunary =>
    split at h
    · cases h
      rw [if_pos hunary]
      rfl
    · cases h
  · next hunary =>
    split at h
    · next hsequence =>
      split at h
      · cases h
      · obtain ⟨ps, hps, h⟩ := Result.bind_eq_ok.mp h
        cases h
        have hlength : eraseValues ps = eraseValues (v.items?.getD []) :=
          eraseValues_eq_iff.mpr (Result.length_of_mapM_eq_ok hps)
        rw [if_neg hunary, if_pos hsequence, ← hlength]
        rfl
    · next hsequence =>
      split at h
      · cases h
      · obtain ⟨p, hp, h⟩ := Result.bind_eq_ok.mp h
        cases h
        rw [if_neg hunary, if_neg hsequence]
        rfl

/-- Conditions with the same column and operator differ in values only. -/
theorem Condition.erase_make {column operator v w : Value} {c c' : Condition}
    (hextent : SameExtent (normalizeOperator (operator.textOf?.getD "")) v w)
    (h : make column operator v = .ok c) (h' : make column operator w = .ok c') :
    c.erase = c'.erase := by
  obtain ⟨n, hn, h⟩ := Result.bind_eq_ok.mp h
  obtain ⟨n', hn', h'⟩ := Result.bind_eq_ok.mp h'
  cases hop : operator.textOf? with
  | none =>
    rw [hop] at h
    cases h
  | some spelling =>
    rw [hop] at h h' hextent
    dsimp only [Option.getD_some] at h h' hextent
    split at h
    · next hknown =>
      rw [if_pos hknown] at h'
      rw [erase_ofOperator h, erase_ofOperator h']
      by_cases hsequence : sequenceOperators.contains (normalizeOperator spelling) = true
      · rw [eraseValues_eq_iff.mpr (hextent hsequence)]
      · simp only [if_neg hsequence]
    · cases h

namespace Query

variable {q q' r r' : Query} {catalog : Catalog} {d : Dialect}

theorem cells_erase {es : List (Value × Value)} {cs : List Cell} (h : cells (.map es) = .ok cs) :
    eraseCells cs = eraseCells es := by
  change es.mapM cell = .ok cs at h
  induction es generalizing cs with
  | nil =>
    cases h
    rfl
  | cons e es ih =>
    obtain ⟨c, cs, hc, hcs, rfl⟩ := Result.mapM_cons_eq_ok.mp h
    obtain ⟨n, hn, hc⟩ := Result.bind_eq_ok.mp hc
    obtain ⟨p, hp, hc⟩ := Result.bind_eq_ok.mp hc
    obtain ⟨m, -, rfl⟩ := Result.map_eq_ok.mp hn
    cases hc
    exact congrArg ((e.1, .null) :: ·) (ih hcs)

/-! ## Edits -/

/-- The edit without the values that it brings. -/
def Edit.erase : Edit → Edit
  | become q => become q.erase
  | insert row table model => insert (eraseCells row) table model
  | update row table model => update (eraseCells row) table model
  | addCondition c => addCondition c.erase
  | e => e

theorem erase_apply (q : Query) (e : Edit) : (e.apply q).erase = e.erase.apply q.erase := by
  cases e with
  | addCondition c => simp [Edit.apply, Edit.erase, erase]
  | _ => rfl

end Query

namespace BuilderCall

open Query (Edit cells_erase)

variable {catalog : Catalog} {c c' : BuilderCall} {e e' : Edit}

theorem erase_conditionEdit {x x' : Condition} {operator : Value} (hx : x.erase = x'.erase)
    (h : conditionEdit x operator = .ok e) (h' : conditionEdit x' operator = .ok e') :
    e.erase = e'.erase := by
  rw [conditionEdit_eq_ok h, conditionEdit_eq_ok h']
  exact congrArg Edit.addCondition hx

theorem erase_rowEdit {table : ModelTerm} {es es' : List (Value × Value)}
    {f : List Cell → Value → Option ModelId → Edit}
    (hf : ∀ cs t m, (f cs t m).erase = f (eraseCells cs) t m)
    (hkeys : es.map Prod.fst = es'.map Prod.fst)
    (h : rowEdit catalog table (.map es) f = .ok e)
    (h' : rowEdit catalog table (.map es') f = .ok e') : e.erase = e'.erase := by
  obtain ⟨cs, t, hcs, ht, rfl⟩ := rowEdit_eq_ok h
  obtain ⟨cs', t', hcs', ht', rfl⟩ := rowEdit_eq_ok h'
  obtain rfl : t = t' := Except.ok.inj (ht.symm.trans ht')
  have hcells : eraseCells cs = eraseCells cs' := by
    rw [cells_erase hcs, cells_erase hcs', eraseCells_eq_iff, hkeys]
  rw [hf, hf, hcells]

/-- Calls that differ in values only stand for edits that differ in values only. -/
theorem Alike.erase_edit (hcc : c.Alike c') (h : c.edit catalog = .ok e)
    (h' : c'.edit catalog = .ok e') : e.erase = e'.erase := by
  cases hcc with
  | same =>
    obtain rfl : e = e' := Except.ok.inj (h.symm.trans h')
    rfl
  | insert table hkeys => exact erase_rowEdit (fun _ _ _ => rfl) hkeys h h'
  | update table hkeys => exact erase_rowEdit (fun _ _ _ => rfl) hkeys h h'
  | whereColumn column operator hextent =>
    simp only [edit] at h h'
    by_cases hnull : operator.isNull = true
    · rw [if_pos hnull] at h
      cases h
    · rw [if_neg hnull] at h h'
      obtain ⟨x, hx, rfl⟩ := Result.map_eq_ok.mp h
      obtain ⟨x', hx', rfl⟩ := Result.map_eq_ok.mp h'
      exact congrArg Edit.addCondition (Condition.erase_make hextent hx hx')
  | whereComparison k column operator hextent =>
    obtain ⟨x, hx, h⟩ := Result.bind_eq_ok.mp h
    obtain ⟨x', hx', h'⟩ := Result.bind_eq_ok.mp h'
    unfold Comparison.condition at hx hx'
    split at hx
    · split at hx'
      · have hmade : x.erase = x'.erase :=
          @Condition.erase_make column (.text k.operator) _ _ x x' hextent hx hx'
        exact erase_conditionEdit hmade h h'
      · cases hx'
    · cases hx
  | whereParts operator hparts =>
    obtain ⟨x, hx, h⟩ := Result.bind_eq_ok.mp h
    obtain ⟨x', hx', h'⟩ := Result.bind_eq_ok.mp h'
    rw [hx, hx'] at hparts
    exact erase_conditionEdit (Except.ok.inj hparts) h h'

end BuilderCall

namespace Query

variable {catalog : Catalog} {calls calls' : List BuilderCall}

theorem erase_foldl_apply (edits : List Edit) (q : Query) :
    (edits.foldl Edit.apply q).erase = (edits.map Edit.erase).foldl Edit.apply q.erase := by
  induction edits generalizing q with
  | nil => rfl
  | cons e edits ih => rw [List.foldl_cons, ih, erase_apply, List.map_cons, List.foldl_cons]

theorem erase_mapM_edit {edits edits' : List Edit}
    (halike : List.Forall₂ BuilderCall.Alike calls calls')
    (h : calls.mapM (BuilderCall.edit catalog) = .ok edits)
    (h' : calls'.mapM (BuilderCall.edit catalog) = .ok edits') :
    edits.map Edit.erase = edits'.map Edit.erase := by
  induction halike generalizing edits edits' with
  | nil =>
    cases h
    cases h'
    rfl
  | cons hcc _ ih =>
    obtain ⟨e, es, he, hes, rfl⟩ := Result.mapM_cons_eq_ok.mp h
    obtain ⟨e', es', he', hes', rfl⟩ := Result.mapM_cons_eq_ok.mp h'
    rw [List.map_cons, List.map_cons, hcc.erase_edit he he', ih hes hes']

/-- Calls that differ in values only make queries that differ in values only. -/
theorem erase_runCalls {q r r' : Query} (halike : List.Forall₂ BuilderCall.Alike calls calls')
    (h : runCalls catalog q calls = .ok r) (h' : runCalls catalog q calls' = .ok r') :
    r.erase = r'.erase := by
  rw [runCalls_eq] at h h'
  obtain ⟨edits, hedits, rfl⟩ := Result.map_eq_ok.mp h
  obtain ⟨edits', hedits', rfl⟩ := Result.map_eq_ok.mp h'
  rw [erase_foldl_apply, erase_foldl_apply, erase_mapM_edit halike hedits hedits']

/-- Queries that differ in values only are both refused, for the same reason, or become the same
text with equally many parameters. -/
theorem text_independent (d : Dialect) (halike : List.Forall₂ BuilderCall.Alike calls calls')
    {q q' : Query} (h : runCalls catalog {} calls = .ok q)
    (h' : runCalls catalog {} calls' = .ok q') :
    (∃ st st', q.build catalog d = .ok st ∧ q'.build catalog d = .ok st' ∧
        st.sql = st'.sql ∧ st.params.length = st'.params.length) ∨
      ∃ e, q.build catalog d = .error e ∧ q'.build catalog d = .error e := by
  have hbuild : (q.build catalog d).map Statement.erase =
      (q'.build catalog d).map Statement.erase := by
    rw [← build_erase, ← build_erase, erase_runCalls halike h h']
  cases hq : q.build catalog d with
  | ok st =>
    rw [hq] at hbuild
    obtain ⟨st', hst', herase⟩ := Result.map_eq_ok.mp hbuild.symm
    have hsql : st'.erase.sql = st.erase.sql := congrArg Statement.sql herase
    have hparams : st'.erase.params = st.erase.params := congrArg Statement.params herase
    exact .inl ⟨st, st', rfl, hst', hsql.symm, (eraseValues_eq_iff.mp hparams).symm⟩
  | error e =>
    rw [hq] at hbuild
    cases hq' : q'.build catalog d with
    | ok st' =>
      rw [hq'] at hbuild
      cases hbuild
    | error e' =>
      rw [hq'] at hbuild
      cases hbuild
      exact .inr ⟨e, rfl, rfl⟩

/-- An update of one column, with two tests, for some values. -/
def updateWith (name age : Value) (ids : List Value) : List BuilderCall :=
  [.update (.argument (.value (.text "users"))) (.map [(.text "name", name)]),
    .whereColumn (.text "id") (.text "not in") (.list ids),
    .whereComparison .gt (.text "age") (some age) .null]

theorem text_independent_update :
    ∃ q q' st st',
      runCalls .empty {} (updateWith (.text "Ann") (.int 3) [.int 1, .int 2]) = .ok q ∧
        runCalls .empty {}
          (updateWith .null (.text "0; DROP TABLE users --") [.text "') OR 1=1", .null]) =
            .ok q' ∧
        q.build .empty .postgresNumbered = .ok st ∧ q'.build .empty .postgresNumbered = .ok st' ∧
        st.sql = st'.sql ∧ st.params.length = st'.params.length := by
  obtain ⟨q, hq⟩ := Result.exists_eq_ok (x := runCalls .empty {}
    (updateWith (.text "Ann") (.int 3) [.int 1, .int 2])) (by decide +kernel)
  obtain ⟨q', hq'⟩ := Result.exists_eq_ok (x := runCalls .empty {}
    (updateWith .null (.text "0; DROP TABLE users --") [.text "') OR 1=1", .null]))
    (by decide +kernel)
  have halike : List.Forall₂ BuilderCall.Alike
      (updateWith (.text "Ann") (.int 3) [.int 1, .int 2])
      (updateWith .null (.text "0; DROP TABLE users --") [.text "') OR 1=1", .null]) :=
    .cons (.update _ rfl) <| .cons (.whereColumn _ _ fun _ => rfl) <|
      .cons (.whereComparison _ _ _ fun h => absurd h (by decide +kernel)) .nil
  have hbuilt : ((runCalls .empty {} (updateWith (.text "Ann") (.int 3) [.int 1, .int 2])).bind
      fun q => q.build .empty .postgresNumbered).isOk = true := by
    decide +kernel
  rcases text_independent .postgresNumbered halike hq hq' with
    ⟨st, st', hst, hst', hsql, hlength⟩ | ⟨e, he, -⟩
  · exact ⟨q, q', st, st', hq, hq', hst, hst', hsql, hlength⟩
  · simp only [hq, Except.bind, he] at hbuilt
    cases hbuilt

end Query

end RelMap
