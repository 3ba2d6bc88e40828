import RelMap.Proofs.Query.Portability
import RelMap.Proofs.Query.Shape
import RelMap.Proofs.Persistence.Writing

/-!
# From the caller to the driver

A value that a caller gives a query is brought into the form of a parameter when the call is made.
The adapter does so once more with the parameters of every statement, and then adapts them to the
dialect.  `Given.Supplies` says that a query keeps nothing but the parameters of what was given, in
the row of an insertion, in the assignments of an update and in conditions on one value and on
several; every call goes on with that (`Given.supplies_runCalls`).  So a built query reaches the
driver as it was built (`Query.execute_delivers`).
-/

namespace RelMap

/-! ## What a query keeps of the given values -/

/-- The values that the calls gave, in the order of the clauses. -/
def Given.values (g : Given) : List Value := g.clauses.flatMap Clause.values

/-- A query that callers begin with: the empty one, or the selection of all of a model. -/
def Query.IsFresh (catalog : Catalog) (q : Query) : Prop :=
  q = {} ∨ ∃ m, Query.ofModel catalog m = .ok q

/-- The parameters of the conditions of a query. -/
def Query.tested (q : Query) : List Value :=
  q.conditions.flatMap fun c => Piece.holes c.pieces

/-- What the query keeps are the parameters of what was given. -/
structure Given.Supplies (g : Given) (q : Query) : Prop where
  row : toParameters (g.row.map Prod.snd) = .ok (q.values.map Prod.snd)
  assigned : toParameters (g.assigned.map Prod.snd) = .ok (q.assignments.map Prod.snd)
  tests : toParameters (g.tests.flatMap Clause.values) = .ok q.tested
  defaults : q.defaultValues.truthy = true → q.values = []

namespace Given

variable {g : Given} {q q' : Query} {catalog : Catalog}

theorem values_eq (g : Given) :
    g.values =
      g.row.map Prod.snd ++ g.assigned.map Prod.snd ++ g.tests.flatMap Clause.values := by
  have hrow : (if g.row.isEmpty then [] else [Clause.row g.row]).flatMap Clause.values =
      g.row.map Prod.snd := by
    cases g.row with
    | nil => rfl
    | cons e row => exact List.flatMap_singleton Clause.values (.row (e :: row))
  have hassigned : (g.assigned.map fun e => Clause.assignment e.1 e.2).flatMap Clause.values =
      g.assigned.map Prod.snd := by
    rw [List.flatMap_map, List.map_eq_flatMap]
    rfl
  rw [values, clauses, List.flatMap_append, List.flatMap_append, hrow, hassigned]

/-- The values of a row become the parameters in its cells. -/
theorem toParameters_entries {row : Value} {cs : List Cell} (h : Query.cells row = .ok cs) :
    toParameters ((entries row).map Prod.snd) = .ok (cs.map Prod.snd) := by
  unfold Query.cells at h
  split at h
  · next es =>
    rw [entries, List.map_map]
    change toParameters (es.map Prod.snd) = _
    induction es generalizing cs with
    | nil =>
      cases h
      rfl
    | cons e es ih =>
      obtain ⟨c, cs, hc, hcs, rfl⟩ := Result.mapM_cons_eq_ok.mp h
      obtain ⟨n, -, hc⟩ := Result.bind_eq_ok.mp hc
      obtain ⟨p, hp, hc⟩ := Result.bind_eq_ok.mp hc
      cases hc
      exact Result.mapM_cons_eq_ok.mpr ⟨p, cs.map Prod.snd, hp, ih hcs, rfl⟩
  · cases h

/-- The values of a test become the parameters of the condition that is made of it. -/
theorem toParameters_test {column operator given : Value} {c : Condition}
    (h : Condition.make column operator given = .ok c) :
    toParameters (test column operator given).values = .ok (Piece.holes c.pieces) := by
  obtain ⟨-, s, hs, hknown, hmade⟩ := Condition.make_eq_ok h
  obtain ⟨shape, hop⟩ := Condition.Shape.exists_mem_operators hknown
  obtain ⟨-, hoperator, hshape⟩ := Condition.hasShape_ofOperator hop hmade
  have hspelling : operator.nameText = s := by
    unfold Value.nameText
    rw [hs]
    rfl
  have hvalues : (test column operator given).values =
      (Clause.test "" (normalizeOperator s) given).values := by
    rw [test, hspelling]
    rfl
  rw [hvalues, hshape.binds.holes]
  exact (hshape.woven hoperator).1

theorem supplies_of_isFresh (h : q.IsFresh catalog) : Supplies {} q := by
  rcases h with rfl | ⟨m, h⟩
  · exact ⟨rfl, rfl, rfl, nofun⟩
  · obtain ⟨u, -, h⟩ := Result.bind_eq_ok.mp h
    obtain ⟨r, hr, h⟩ := Result.bind_eq_ok.mp h
    obtain ⟨names, -, hr⟩ := Result.bind_eq_ok.mp hr
    obtain ⟨t, -, h⟩ := Result.bind_eq_ok.mp h
    cases hr
    cases h
    exact ⟨rfl, rfl, rfl, nofun⟩

theorem Supplies.addTest (hg : g.Supplies q) {column operator given : Value} {c : Condition}
    (h : Condition.make column operator given = .ok c) :
    Supplies { g with tests := g.tests ++ [test column operator given] }
      { q with conditions := q.conditions ++ [c] } := by
  refine { hg with tests := ?_ }
  rw [Query.tested, List.flatMap_append, List.flatMap_append, List.flatMap_singleton,
    List.flatMap_singleton]
  exact Result.mapM_append_eq_ok hg.tests (toParameters_test h)

/-- A call brings a query nothing but the parameters of what it gave. -/
theorem Supplies.brings (hg : g.Supplies q) {c : BuilderCall} {e : Query.Edit} (h : c.Brings e) :
    (g.add c).Supplies (e.apply q) := by
  cases h with
  | row name model hcs => exact { hg with row := toParameters_entries hcs, defaults := nofun }
  | defaults table name model => exact { hg with row := rfl, defaults := fun _ => rfl }
  | assignments name model hcs => exact { hg with assigned := toParameters_entries hcs }
  | test hmade => exact hg.addTest hmade
  | comparison hmade => exact hg.addTest hmade
  | nothing hadd hsame =>
    obtain ⟨hvalues, hdefaults, hassignments, hconditions⟩ := hsame q
    rw [hadd]
    refine ⟨?_, ?_, ?_, ?_⟩
    · rw [hvalues]
      exact hg.row
    · rw [hassignments]
      exact hg.assigned
    · rw [Query.tested, hconditions]
      exact hg.tests
    · rw [hdefaults, hvalues]
      exact hg.defaults

/-- A query keeps nothing but the parameters of what its calls gave. -/
theorem supplies_runCalls {calls : List BuilderCall} (hg : g.Supplies q)
    (hcalls : ∀ c ∈ calls, c.Continues) (h : Query.runCalls catalog q calls = .ok q') :
    (calls.foldl add g).Supplies q' :=
  of_runCalls (fun c hc _ he _ _ hg => hg.brings (BuilderCall.brings_of_edit he (hcalls c hc))) hg h

end Given

/-! ## What a statement binds -/

namespace Query

open Piece

variable {g : Given} {q : Query} {catalog : Catalog} {d : Dialect} {k : Kind}

theorem holes_separated (sep : String) (groups : List (List Piece)) :
    holes (separated sep groups) = groups.flatMap holes := by
  induction groups with
  | nil => rfl
  | cons group groups ih =>
    cases groups with
    | nil => exact (List.append_nil _).symm
    | cons other groups =>
      change holes (group ++ ([fixed sep] ++ separated sep (other :: groups))) = _
      rw [holes_append, holes_append, ih]
      rfl

theorem holes_where (q : Query) : holes q.wherePieces = q.tested := by
  unfold wherePieces tested
  split
  · next hempty =>
    rw [List.isEmpty_iff.mp hempty]
    rfl
  · change holes (separated " AND " (q.conditions.map Condition.pieces)) = _
    rw [holes_separated, List.flatMap_map]

theorem holes_order (q : Query) : holes q.orderPieces = [] := by
  unfold orderPieces
  split
  · rfl
  · change holes (separated ", " _) = _
    rw [holes_separated, List.flatMap_map]
    exact List.flatMap_eq_nil_iff.mpr fun _ _ => rfl

theorem holes_limit (q : Query) : holes q.limitPieces = [] := by
  unfold limitPieces
  split <;> rfl

theorem holes_returning (q : Query) : holes q.returningPieces = [] := by
  unfold returningPieces
  split
  · rfl
  · exact holes_nameList q.returning

theorem holes_select (q : Query) (d : Dialect) : holes (q.selectPieces d) = q.tested := by
  have hhead : ∀ ps, holes (.fixed (if q.distinct.truthy then "SELECT DISTINCT " else "SELECT ") ::
      ps) = holes ps := fun _ => rfl
  have htable : holes [.fixed " FROM ", q.tablePiece] = [] := rfl
  simp only [selectPieces, hhead, holes_append, holes_nameList, htable, holes_where, holes_order,
    holes_limit, holes_offset, List.nil_append, List.append_nil]

theorem holes_insert (h : q.defaultValues.truthy = true → q.values = []) :
    holes q.insertPieces = q.values.map Prod.snd := by
  unfold insertPieces
  split
  · next hdefaults =>
    rw [h hdefaults]
    rfl
  · rw [holes_append, holes_append, holes_append, holes_append, holes_nameList, holes_holeList]
    exact List.append_nil _

theorem holes_update (q : Query) :
    holes q.updatePieces = q.assignments.map Prod.snd ++ q.tested := by
  have hassignments : holes (separated ", " (q.assignments.map fun a =>
      [.name a.1, .fixed " = ", .hole a.2])) = q.assignments.map Prod.snd := by
    rw [holes_separated, List.flatMap_map, List.map_eq_flatMap]
    rfl
  rw [updatePieces, holes_append, holes_append, hassignments, holes_where]
  rfl

theorem holes_delete (q : Query) : holes q.deletePieces = q.tested := by
  rw [deletePieces, holes_append, holes_where]
  rfl

theorem not_strays (h : q.validateParts k = .ok ()) : ¬ q.Strays k := by
  have hjudges := validateParts_judges (q := q) k
  rw [h] at hjudges
  exact hjudges.2

/-- A query whose parts are those of its kind binds all that it keeps: the row, then what is
assigned, and then what is tested. -/
theorem holes_pieces (hparts : q.validateParts k = .ok ())
    (hdefaults : q.defaultValues.truthy = true → q.values = []) (d : Dialect) :
    holes (q.pieces k d) =
      q.values.map Prod.snd ++ q.assignments.map Prod.snd ++ q.tested := by
  have hstrays := not_strays hparts
  unfold pieces
  rw [holes_append, holes_returning, List.append_nil]
  cases k with
  | select =>
    simp only [Strays, not_or, not_not] at hstrays
    obtain ⟨hvalues, -, hassignments, -⟩ := hstrays
    rw [holes_select, hvalues, hassignments]
    rfl
  | insert =>
    simp only [Strays, not_or, not_not] at hstrays
    obtain ⟨-, hassignments, hconditions, -⟩ := hstrays
    rw [holes_insert hdefaults, tested, hassignments, hconditions, List.flatMap_nil, List.map_nil,
      List.append_nil, List.append_nil]
  | update =>
    simp only [Strays, not_or, not_not] at hstrays
    obtain ⟨-, hvalues, -⟩ := hstrays
    rw [holes_update, hvalues]
    rfl
  | delete =>
    simp only [Strays, not_or, not_not] at hstrays
    obtain ⟨-, hvalues, -, hassignments, -⟩ := hstrays
    rw [holes_delete, hvalues, hassignments]
    rfl

/-- The parameters of a statement are those of the given values, in the order of the clauses. -/
theorem params_of_supplies (hg : g.Supplies q) {st : Statement}
    (hst : q.build catalog d = .ok st) : toParameters g.values = .ok st.params := by
  obtain ⟨k, hk, hst⟩ := Result.bind_eq_ok.mp hst
  obtain ⟨sql, -, hst⟩ := Result.bind_eq_ok.mp hst
  cases hst
  obtain ⟨-, hparts, -⟩ := validate_eq_ok hk
  rw [holes_pieces hparts hg.defaults, Given.values_eq]
  exact Result.mapM_append_eq_ok (Result.mapM_append_eq_ok hg.row hg.assigned) hg.tests

end Query

/-! ## What the driver is asked -/

theorem isParameter_of_toParameters {vs ps : List Value} (h : toParameters vs = .ok ps) :
    ∀ p ∈ ps, p.isParameter = true := by
  intro p hp
  obtain ⟨v, -, hv⟩ := Result.exists_mem_of_mapM_eq_ok h hp
  exact isParameter_of_toParameter hv

/-- To bring parameters into the form of parameters changes nothing. -/
theorem toParameters_toParameters {vs ps : List Value} (h : toParameters vs = .ok ps) :
    toParameters ps = .ok ps := by
  have hkept := Result.mapM_eq_ok_map (g := id) fun p hp =>
    toParameter_of_isParameter (isParameter_of_toParameters h p hp)
  rw [List.map_id] at hkept
  exact hkept

/-- Each value is made a parameter and adapted. -/
theorem mapM_adapt {vs ps : List Value} (h : toParameters vs = .ok ps) (d : Dialect) :
    vs.mapM (fun v => v.toParameter.map d.adapt) = .ok (ps.map d.adapt) := by
  induction vs generalizing ps with
  | nil =>
    cases h
    rfl
  | cons v vs ih =>
    obtain ⟨p, qs, hp, hqs, rfl⟩ := Result.mapM_cons_eq_ok.mp h
    exact Result.mapM_cons_eq_ok.mpr
      ⟨d.adapt p, qs.map d.adapt, by rw [hp]; rfl, ih hqs, rfl⟩

namespace Run

/-- On a connection that grants a cursor a statement is run once, and what follows it on the cursor
is no statement. -/
theorem executeOn_calls {s : Session} (hgranted : s.reply.refused = none) (c : Nat) (sql : String)
    (bound : List Value) :
    ∃ behind, (executeOn c sql bound s).2.calls =
        s.calls ++ .openCursor c (some s.calls.length) :: .execute s.calls.length sql bound ::
          behind ∧ ∀ k ∈ behind, k.IsSilent := by
  obtain ⟨new, hnew, hexchange⟩ := executeOn_exchange c sql bound s
  cases hexchange with
  | refused =>
    -- a cursor that is refused would be asked for no statement
    have hsent := executeOn_sent c sql bound s
    rw [hgranted, Session.sent, hnew, List.filterMap_append] at hsent
    cases List.append_cancel_left hsent
  | @granted fetches h =>
    refine ⟨_, hnew, List.forall_mem_append.mpr ⟨fun k hk => ?_, fun k hk => ?_⟩⟩
    · rw [h k hk]
      rfl
    · split at hk
      · rw [List.mem_singleton.mp hk]
        rfl
      · cases hk

end Run

namespace Query

variable {catalog : Catalog} {calls : List BuilderCall} {q₀ q : Query} {s : Session}
  {connection : Nat}

/-- **A built query reaches the driver unchanged.**  If the query is built for the dialect of a
connected adapter whose driver grants a cursor, the driver is asked to run one statement: the text
that was built, with each value that the calls gave in its place, brought into the form of a
parameter and adapted to the dialect; where no values were given, this is a run of the text alone
(`Call.execute`).  To bring a value into the form of a parameter twice changes nothing.  What is bound
is absent, a truth value, a number, text or bytes and never a labelled constant.  If the query is not
built, the driver is asked nothing. -/
theorem execute_delivers (hq₀ : q₀.IsFresh catalog) (hcalls : ∀ c ∈ calls, c.Continues)
    (hq : runCalls catalog q₀ calls = .ok q) (hconnected : s.adapter.connection = some connection)
    (hgranted : s.reply.refused = none) :
    (∀ st, q.build catalog s.adapter.dialect = .ok st →
      (Given.ofCalls calls).values.mapM (fun v => v.toParameter.map s.adapter.dialect.adapt) =
          .ok (st.params.map s.adapter.dialect.adapt) ∧
        toParameters st.params = .ok st.params ∧
        (∀ p ∈ st.params, (s.adapter.dialect.adapt p).isParameter = true) ∧
        ∃ behind, (q.execute catalog s).2.calls =
            s.calls ++ .openCursor connection (some s.calls.length) ::
              .execute s.calls.length st.sql (st.params.map s.adapter.dialect.adapt) :: behind ∧
          ∀ k ∈ behind, k.IsSilent) ∧
    ∀ e, q.build catalog s.adapter.dialect = .error e → q.execute catalog s = (.error e, s) := by
  have hg : (Given.ofCalls calls).Supplies q :=
    Given.supplies_runCalls (Given.supplies_of_isFresh hq₀) hcalls hq
  constructor
  · intro st hst
    have hparams := params_of_supplies hg hst
    have hall := isParameter_of_toParameters hparams
    refine ⟨mapM_adapt hparams _, toParameters_toParameters hparams, ?_, ?_⟩
    · exact fun p hp => Dialect.isParameter_adapt _ (hall p hp)
    · have hrun : q.execute catalog s = Run.executeOn connection st.sql
          (st.params.map s.adapter.dialect.adapt) s := by
        rw [Catalog.execute_built hst, Statement.run, Run.execute_of_connected hconnected]
        exact Run.ofResult_bind_ok (Run.bindParams_parameters _ hall) _
      rw [hrun]
      exact Run.executeOn_calls hgranted connection st.sql _
  · intro e he
    exact Run.ofResult_bind_error he _

/-- An update with labelled constants, one of them in another, a truth value and bytes among its
values. -/
def labelledCalls : List BuilderCall :=
  [.update (.argument (.value (.text "users")))
      (.map [(.text "role", .textConstant ⟨"Role", "ADMIN"⟩ "admin"),
        (.text "active", .bool true)]),
    .whereColumn (.text "level") (.text "in")
      (.tuple [.constant ⟨"Level", "LOW"⟩ (.intConstant ⟨"Number", "ONE"⟩ 1), .bytes .view [7]]),
    .whereComparison .ne (.text "name") (some .null) .null]

theorem execute_delivers_labelled :
    ∃ q st, runCalls .empty {} labelledCalls = .ok q ∧ q.build .empty .sqlite = .ok st ∧
      ∃ behind, (q.execute .empty Catalog.untouched).2.calls =
        .openCursor 0 (some 0) ::
          .execute 0 st.sql [.text "admin", .int 1, .int 1, .bytes .bytes [7], .null] ::
            behind := by
  have hbuilt : ((runCalls .empty {} labelledCalls).bind fun q =>
      q.build .empty .sqlite).isOk = true := by
    decide +kernel
  obtain ⟨st, hst⟩ := Result.exists_eq_ok hbuilt
  obtain ⟨q, hq, hst⟩ := Result.bind_eq_ok.mp hst
  have hcalls : ∀ c ∈ labelledCalls, c.Continues := by
    intro c hc
    simp only [labelledCalls, List.mem_cons, List.not_mem_nil, or_false] at hc
    rcases hc with rfl | rfl | rfl <;> trivial
  obtain ⟨hbound, -, -, behind, hrun, -⟩ :=
    (execute_delivers (s := Catalog.untouched) (.inl rfl) hcalls hq rfl rfl).1 st hst
  have hvalues : (Given.ofCalls labelledCalls).values.mapM
      (fun v => v.toParameter.map Dialect.sqlite.adapt) =
        .ok [.text "admin", .int 1, .int 1, .bytes .bytes [7], .null] := by
    rfl
  rw [← Except.ok.inj (hvalues.symm.trans hbound)] at hrun
  exact ⟨q, st, hq, hst, behind, hrun⟩

end Query

end RelMap
