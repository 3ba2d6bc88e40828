import RelMap.Proofs.Query.Weaving

/-!
# Marks and parameters

The pieces of a statement are woven of the clauses that the caller gave, one kind of statement after
the other, up to the limit and the offset.  So the marks of a statement, its parameters and the
clauses are aligned, unless a mark is written with a count (`Query.build_aligned`): a count that is
given by a labelled constant is written by its label, and no check looks at that
(`Query.build_not_always_aligned`).
-/

namespace RelMap

variable {style : ParamStyle}

/-- A plain text without the sign of a mark. -/
def Value.IsPlainName (v : Value) : Prop := ∃ s, v = .text s ∧ SignFree s.toList

theorem Value.IsIdentifier.isPlainName {v : Value} (h : v.IsIdentifier) : v.IsPlainName := by
  obtain ⟨s, rfl, hs⟩ := h
  exact ⟨s, rfl, .of_isIdentifier hs⟩

namespace Query

open Piece

variable {g : Given} {C : Condition → Prop} {N : Value → Prop} {q : Query} {d : Dialect}
  {catalog : Catalog} {k : Kind}

/-! ### What the checks leave -/

theorem forbid_eq_ok {parts : List Part} (h : q.forbid parts = .ok ()) :
    ∀ p ∈ parts, q.has p = false := by
  unfold forbid at h
  split at h
  · cases h
  · next hnone =>
    intro p hp
    exact Bool.not_eq_true _ ▸ List.find?_eq_none.mp hnone p hp

theorem validate_eq_ok (h : q.validate catalog d = .ok k) :
    q.table.isNull = false ∧ q.validateParts k = .ok () ∧ Kind.ofValue? q.kind = some k := by
  cases hkind : q.kind.isNull with
  | true =>
    simp only [validate, hkind, if_true] at h
    split at h <;> cases h
  | false =>
    cases htable : q.table.isNull with
    | true =>
      simp only [validate, hkind, htable, if_true] at h
      split at h <;> cases h
    | false =>
      refine ⟨rfl, ?_⟩
      simp only [validate, hkind, htable, Bool.false_eq_true, if_false] at h
      split at h
      · cases h
      · next hof =>
        obtain ⟨u, hparts, h⟩ := Result.bind_eq_ok.mp h
        split at h
        · cases h
        · split at h
          · cases h
            exact ⟨hparts, hof⟩
          · obtain ⟨e, -, h⟩ := Result.bind_eq_ok.mp h
            obtain ⟨u', -, h⟩ := Result.bind_eq_ok.mp h
            cases h
            exact ⟨hparts, hof⟩

theorem eq_nil_of_isEmpty {α : Type} {xs : List α} (h : (!xs.isEmpty) = false) : xs = [] := by
  cases xs with
  | nil => rfl
  | cons x xs => cases h

theorem columns_of_validateParts (h : q.validateParts .select = .ok ()) :
    q.columns ≠ [] ∧ q.values = [] ∧ q.defaultValues.truthy = false ∧ q.assignments = [] ∧
      q.returning = [] := by
  unfold validateParts at h
  dsimp only at h
  split at h
  · cases h
  · next hcolumns =>
    obtain ⟨u, hforbid, h⟩ := Result.bind_eq_ok.mp h
    have hforeign := forbid_eq_ok hforbid
    split at h
    · next hreturning =>
      exact ⟨by simpa using hcolumns, eq_nil_of_isEmpty (hforeign .values (by decide)),
        hforeign .defaultValues (by decide), eq_nil_of_isEmpty (hforeign .assignments (by decide)),
        List.isEmpty_iff.mp hreturning⟩
    · cases h

theorem row_of_validateParts (h : q.validateParts .insert = .ok ()) :
    (q.values = [] → q.defaultValues.truthy = true) ∧ q.columns = [] ∧ q.assignments = [] ∧
      q.conditions = [] ∧ q.forbidPaging = .ok () := by
  unfold validateParts at h
  dsimp only at h
  split at h
  · cases h
  · next hvalues =>
    obtain ⟨u, hforbid, hpaging⟩ := Result.bind_eq_ok.mp h
    have hforeign := forbid_eq_ok hforbid
    refine ⟨?_, eq_nil_of_isEmpty (hforeign .columns (by decide)),
      eq_nil_of_isEmpty (hforeign .assignments (by decide)),
      eq_nil_of_isEmpty (hforeign .conditions (by decide)), hpaging⟩
    intro hnone
    simpa [hnone] using hvalues

theorem assignments_of_validateParts (h : q.validateParts .update = .ok ()) :
    q.assignments ≠ [] ∧ q.columns = [] ∧ q.values = [] ∧ q.defaultValues.truthy = false ∧
      q.forbidPaging = .ok () := by
  unfold validateParts at h
  dsimp only at h
  split at h
  · cases h
  · next hassignments =>
    obtain ⟨u, hforbid, hpaging⟩ := Result.bind_eq_ok.mp h
    have hforeign := forbid_eq_ok hforbid
    exact ⟨by simpa using hassignments, eq_nil_of_isEmpty (hforeign .columns (by decide)),
      eq_nil_of_isEmpty (hforeign .values (by decide)), hforeign .defaultValues (by decide),
      hpaging⟩

theorem conditions_of_validateParts (h : q.validateParts .delete = .ok ()) :
    q.columns = [] ∧ q.values = [] ∧ q.defaultValues.truthy = false ∧ q.assignments = [] ∧
      q.forbidPaging = .ok () := by
  unfold validateParts at h
  obtain ⟨u, hforbid, hpaging⟩ := Result.bind_eq_ok.mp h
  have hforeign := forbid_eq_ok hforbid
  exact ⟨eq_nil_of_isEmpty (hforeign .columns (by decide)),
    eq_nil_of_isEmpty (hforeign .values (by decide)), hforeign .defaultValues (by decide),
    eq_nil_of_isEmpty (hforeign .assignments (by decide)), hpaging⟩

/-! ### Limit and offset -/

/-- What is written of the limit, or in its place. -/
def limitPart (q : Query) (d : Dialect) : List Piece :=
  if !q.limit.isNull then [.fixed " LIMIT ", .number q.limit]
  else if !q.offset.isNull && d.offsetFiller.truthy then [.fixed (" " ++ d.offsetFiller.display)]
  else []

def offsetPart (q : Query) : List Piece :=
  if q.offset.isNull then [] else [.fixed " OFFSET ", .number q.offset]

theorem paging_eq (q : Query) (d : Dialect) :
    q.limitPieces ++ q.offsetPieces d = q.limitPart d ++ q.offsetPart := by
  unfold limitPieces offsetPieces limitPart offsetPart
  cases q.limit.isNull <;> cases q.offset.isNull <;> cases d.offsetFiller.truthy <;> rfl

/-- Statements other than queries have neither a limit nor an offset. -/
theorem paging_of_forbidPaging (h : q.forbidPaging = .ok ()) (d : Dialect) :
    q.limitPart d ++ q.offsetPart = [] := by
  unfold forbidPaging at h
  split at h
  · cases h
  · next hpaging =>
    simp only [Bool.or_eq_true, Bool.not_eq_true', not_or, Bool.not_eq_false] at hpaging
    obtain ⟨⟨-, hlimit⟩, hoffset⟩ := hpaging
    simp [limitPart, offsetPart, hlimit, hoffset]

/-- The text of limit and offset: the counts as they are displayed, and what the dialect wants in
place of a limit before an offset. -/
def pagingText (q : Query) (d : Dialect) : String :=
  (if !q.limit.isNull then " LIMIT " ++ q.limit.display
    else if !q.offset.isNull && d.offsetFiller.truthy then " " ++ d.offsetFiller.display
    else "") ++
  (if q.offset.isNull then "" else " OFFSET " ++ q.offset.display)

theorem write_paging (q : Query) (d : Dialect) (first : Nat) :
    write style first (q.limitPart d ++ q.offsetPart) = .ok (q.pagingText d) := by
  unfold limitPart offsetPart pagingText
  cases q.limit.isNull <;> cases q.offset.isNull <;> cases d.offsetFiller.truthy <;>
    simp [write, Except.map, String.append_assoc]

/-- Limit and offset are set apart from what comes before them. -/
theorem noDigit_pagingText (q : Query) (d : Dialect) : NoDigit (q.pagingText d).toList := by
  have happart {x : String} (hx : NoDigit x.toList) (hne : x.toList ≠ []) (y : String) :
      NoDigit (x ++ y).toList := by
    rw [String.toList_append]
    exact hx.append_of_ne_nil hne
  unfold pagingText
  rw [String.toList_append]
  refine NoDigit.append ?_ ?_
  · split
    · exact happart (by decide) (by decide) _
    · split
      · exact happart (by decide) (by decide) _
      · exact .nil
  · split
    · exact .nil
    · exact happart (by decide) (by decide) _

/-! ### Parts without marks -/

theorem quiet_single {p : Piece} (hp : p.IsQuiet) : ∀ p' ∈ [p], p'.IsQuiet := by
  intro p' hp'
  cases List.mem_singleton.mp hp'
  exact hp

theorem quiet_cons {p : Piece} {ps : List Piece} (hp : p.IsQuiet) (hps : ∀ p' ∈ ps, p'.IsQuiet) :
    ∀ p' ∈ p :: ps, p'.IsQuiet :=
  List.forall_mem_cons.mpr ⟨hp, hps⟩

theorem quiet_append {ps qs : List Piece} (hps : ∀ p ∈ ps, p.IsQuiet) (hqs : ∀ p ∈ qs, p.IsQuiet) :
    ∀ p ∈ ps ++ qs, p.IsQuiet :=
  List.forall_mem_append.mpr ⟨hps, hqs⟩

theorem quiet_fixed {s : String} (h : SignFree s.toList) : (fixed s).IsQuiet := ⟨s, rfl, h⟩

theorem quiet_separated {sep : String} (hsep : SignFree sep.toList) {groups : List (List Piece)}
    (h : ∀ group ∈ groups, ∀ p ∈ group, p.IsQuiet) : ∀ p ∈ separated sep groups, p.IsQuiet := by
  induction groups with
  | nil => nofun
  | cons group groups ih =>
    have hgroup := h group List.mem_cons_self
    have hrest := ih fun other ho => h other (List.mem_cons_of_mem _ ho)
    cases groups with
    | nil => exact hgroup
    | cons other groups => exact quiet_append hgroup (quiet_cons (quiet_fixed hsep) hrest)

theorem quiet_nameList {vs : List Value} (h : ∀ v ∈ vs, v.IsPlainName) :
    ∀ p ∈ nameList vs, p.IsQuiet := by
  apply quiet_separated (by decide)
  intro group hgroup
  obtain ⟨v, hv, rfl⟩ := List.mem_map.mp hgroup
  obtain ⟨s, rfl, hfree⟩ := h v hv
  exact quiet_single ⟨s, rfl, hfree⟩

theorem Regular.quiet_returning (hq : q.Regular Value.IsPlainName C N) :
    ∀ p ∈ q.returningPieces, p.IsQuiet := by
  unfold returningPieces
  split
  · nofun
  · exact quiet_cons (quiet_fixed (by decide))
      (quiet_nameList fun v hv => (hq.returning v hv).isPlainName)

theorem isApart_returning (q : Query) : IsApart style q.returningPieces := by
  unfold returningPieces
  split
  · exact isApart_nil
  · exact isApart_fixed (by decide) (by decide) _

theorem Regular.quiet_table (hq : q.Regular Value.IsPlainName C N) (h : q.table.isNull = false) :
    q.tablePiece.IsQuiet := by
  rcases hq.table with hnull | ⟨s, hs, hfree⟩
  · rw [h] at hnull
    cases hnull
  · refine ⟨s, ?_, hfree⟩
    rw [tablePiece, hs]
    rfl

theorem Regular.quiet_order (hq : q.Regular Value.IsPlainName C N) :
    ∀ p ∈ q.orderPieces, p.IsQuiet := by
  unfold orderPieces
  split
  · nofun
  · refine quiet_cons (quiet_fixed (by decide)) (quiet_separated (by decide) ?_)
    intro group hgroup
    obtain ⟨o, ho, rfl⟩ := List.mem_map.mp hgroup
    obtain ⟨s, hs, hfree⟩ := (hq.ordering o ho).isPlainName
    refine quiet_cons ⟨s, ?_, hfree⟩ (quiet_single ?_)
    · rw [hs]
      rfl
    · split <;> exact quiet_fixed (by decide)

theorem isApart_order (q : Query) : IsApart style q.orderPieces := by
  unfold orderPieces
  split
  · exact isApart_nil
  · exact isApart_fixed (by decide) (by decide) _

theorem Regular.quiet_head (hq : q.Regular Value.IsPlainName C N) (h : q.table.isNull = false) :
    ∀ p ∈ .fixed (if q.distinct.truthy then "SELECT DISTINCT " else "SELECT ") ::
      (nameList q.columns ++ [.fixed " FROM ", q.tablePiece]), p.IsQuiet := by
  have hnames : ∀ v ∈ q.columns, v.IsPlainName := by
    intro v hv
    rcases hq.columns v hv with rfl | hid
    · exact ⟨"*", rfl, by decide⟩
    · exact hid.isPlainName
  refine quiet_cons (by split <;> exact quiet_fixed (by decide)) (quiet_append
    (quiet_nameList hnames) (quiet_cons (quiet_fixed (by decide)) (quiet_single (hq.quiet_table h))))

/-! ### Kinds of statements -/

theorem mapM_nil_of_eq_ok {α β : Type} {f : α → Result β} {xs : List α}
    (h : xs.mapM f = .ok []) : xs = [] :=
  List.length_eq_zero_iff.mp (Result.length_of_mapM_eq_ok h).symm

/-- The conditions are woven of the tests. -/
theorem woven_where (hg : g.Fits q) : Woven style g.tests q.wherePieces := by
  unfold wherePieces
  have htests := hg.conditions
  split
  · next hempty =>
    rw [List.isEmpty_iff.mp hempty] at htests
    rw [mapM_nil_of_eq_ok htests]
    exact woven_quiet nofun
  · have hwoven : Woven style (g.tests.map id)
        (separated " AND " (q.conditions.map Condition.pieces)) :=
      woven_separated (by decide) (by decide) (by decide) htests fun t c h => woven_test h
    rw [List.map_id] at hwoven
    exact hwoven.prepend (quiet_single (quiet_fixed (s := " WHERE ") (by decide)))

theorem isApart_where (q : Query) : IsApart style q.wherePieces := by
  unfold wherePieces
  split
  · exact isApart_nil
  · exact isApart_fixed (by decide) (by decide) _

theorem Regular.woven_returning (hq : q.Regular Value.IsPlainName C N) {clauses : List Clause}
    {ps : List Piece} (h : Woven style clauses ps) :
    Woven style clauses (ps ++ q.returningPieces) := by
  have hwoven := h.append (woven_quiet hq.quiet_returning) (isApart_returning q)
  rw [List.append_nil] at hwoven
  exact hwoven

/-- Without a row and assignments there are tests only. -/
theorem clauses_of_tests (hg : g.Fits q) (hvalues : q.values = [])
    (hassignments : q.assignments = []) : g.clauses = g.tests := by
  have hrow := hg.values
  have hassigned := hg.assignments
  rw [hvalues] at hrow
  rw [hassignments] at hassigned
  unfold Given.clauses
  rw [mapM_nil_of_eq_ok hrow, mapM_nil_of_eq_ok hassigned]
  rfl

theorem select_woven (hg : g.Fits q) (hq : q.Regular Value.IsPlainName C N)
    (htable : q.table.isNull = false) (hparts : q.validateParts .select = .ok ()) :
    ∃ lead, q.pieces .select d = lead ++ (q.limitPart d ++ q.offsetPart) ∧
      Woven style g.clauses lead := by
  obtain ⟨-, hvalues, -, hassignments, hreturning⟩ := columns_of_validateParts hparts
  rw [clauses_of_tests hg hvalues hassignments]
  have horder : Woven style [] q.orderPieces := woven_quiet hq.quiet_order
  have hwoven := ((woven_where hg).prepend (hq.quiet_head htable)).append horder (isApart_order q)
  rw [List.append_nil] at hwoven
  refine ⟨_, ?_, hwoven⟩
  rw [← paging_eq]
  simp only [pieces, selectPieces, returningPieces, hreturning, List.isEmpty_nil, if_true,
    List.append_assoc, List.cons_append, List.nil_append, List.append_nil]

theorem insert_woven (hg : g.Fits q) (hq : q.Regular Value.IsPlainName C N)
    (htable : q.table.isNull = false) (hparts : q.validateParts .insert = .ok ()) :
    Woven style g.clauses (q.pieces .insert d) := by
  obtain ⟨hnone, -, hassignments, hconditions, -⟩ := row_of_validateParts hparts
  have hassigned := hg.assignments
  have htests := hg.conditions
  rw [hassignments] at hassigned
  rw [hconditions] at htests
  have hclauses : g.clauses = if g.row.isEmpty then [] else [.row g.row] := by
    unfold Given.clauses
    rw [mapM_nil_of_eq_ok hassigned, mapM_nil_of_eq_ok htests, List.map_nil, List.append_nil,
      List.append_nil]
  have hinto : (fixed "INSERT INTO ").IsQuiet := quiet_fixed (by decide)
  have hrow := hg.values
  refine hq.woven_returning ?_
  change Woven style g.clauses q.insertPieces
  rw [hclauses]
  unfold insertPieces
  cases hdefaults : q.defaultValues.truthy with
  | true =>
    rw [hg.defaults hdefaults] at hrow
    rw [mapM_nil_of_eq_ok hrow]
    exact woven_quiet (quiet_cons hinto
      (quiet_cons (hq.quiet_table htable) (quiet_single (quiet_fixed (by decide)))))
  | false =>
    have hgiven : g.row.isEmpty = false := by
      cases hempty : g.row with
      | nil =>
        rw [hempty, List.mapM_nil] at hrow
        rw [hnone (Except.ok.inj hrow).symm] at hdefaults
        cases hdefaults
      | cons e row => rfl
    rw [hgiven]
    have hlead := quiet_cons hinto
      (quiet_cons (hq.quiet_table htable) (quiet_single (quiet_fixed (s := " (") (by decide))))
    have hpieces : Woven style [.row g.row] _ := woven_row hrow
    have hwoven := (hpieces.prepend hlead).append
      (woven_quiet (quiet_single (quiet_fixed (s := ")") (by decide))))
      (isApart_fixed (by decide) (by decide) _)
    rw [List.append_nil] at hwoven
    simp only [List.append_assoc] at hwoven ⊢
    exact hwoven

theorem update_woven (hg : g.Fits q) (hq : q.Regular Value.IsPlainName C N)
    (htable : q.table.isNull = false) (hparts : q.validateParts .update = .ok ()) :
    Woven style g.clauses (q.pieces .update d) := by
  obtain ⟨-, -, hvalues, -, -⟩ := assignments_of_validateParts hparts
  have hrow := hg.values
  rw [hvalues] at hrow
  have hclauses : g.clauses = g.assigned.map (fun e => .assignment e.1 e.2) ++ g.tests := by
    unfold Given.clauses
    rw [mapM_nil_of_eq_ok hrow]
    rfl
  rw [hclauses]
  refine hq.woven_returning ?_
  have hassigned : Woven style (g.assigned.map fun e => .assignment e.1 e.2)
      (separated ", " (q.assignments.map fun a => [.name a.1, .fixed " = ", .hole a.2])) :=
    woven_separated (by decide) (by decide) (by decide) hg.assignments fun e c h =>
      woven_assignment h
  have hlead := quiet_cons (quiet_fixed (s := "UPDATE ") (by decide))
    (quiet_cons (hq.quiet_table htable) (quiet_single (quiet_fixed (s := " SET ") (by decide))))
  exact (hassigned.prepend hlead).append (woven_where hg) (isApart_where q)

theorem delete_woven (hg : g.Fits q) (hq : q.Regular Value.IsPlainName C N)
    (htable : q.table.isNull = false) (hparts : q.validateParts .delete = .ok ()) :
    Woven style g.clauses (q.pieces .delete d) := by
  obtain ⟨-, hvalues, -, hassignments, -⟩ := conditions_of_validateParts hparts
  rw [clauses_of_tests hg hvalues hassignments]
  refine hq.woven_returning ?_
  exact (woven_where hg).prepend
    (quiet_cons (quiet_fixed (s := "DELETE FROM ") (by decide))
      (quiet_single (hq.quiet_table htable)))

/-- The pieces of a statement are woven of the clauses, up to limit and offset. -/
theorem pieces_woven (hg : g.Fits q) (hq : q.Regular Value.IsPlainName C N)
    (h : q.validate catalog d = .ok k) :
    ∃ lead, q.pieces k d = lead ++ (q.limitPart d ++ q.offsetPart) ∧
      Woven style g.clauses lead := by
  obtain ⟨htable, hparts, -⟩ := validate_eq_ok h
  have hwhole (hpaging : q.forbidPaging = .ok ()) (hwoven : Woven style g.clauses (q.pieces k d)) :
      ∃ lead, q.pieces k d = lead ++ (q.limitPart d ++ q.offsetPart) ∧
        Woven style g.clauses lead := by
    refine ⟨_, ?_, hwoven⟩
    rw [paging_of_forbidPaging hpaging, List.append_nil]
  cases k with
  | select => exact select_woven hg hq htable hparts
  | insert =>
    obtain ⟨-, -, -, -, hpaging⟩ := row_of_validateParts hparts
    exact hwhole hpaging (insert_woven hg hq htable hparts)
  | update =>
    obtain ⟨-, -, -, -, hpaging⟩ := assignments_of_validateParts hparts
    exact hwhole hpaging (update_woven hg hq htable hparts)
  | delete =>
    obtain ⟨-, -, -, -, hpaging⟩ := conditions_of_validateParts hparts
    exact hwhole hpaging (delete_woven hg hq htable hparts)

theorem holes_paging (q : Query) (d : Dialect) : holes (q.limitPart d ++ q.offsetPart) = [] := by
  unfold limitPart offsetPart
  cases q.limit.isNull <;> cases q.offset.isNull <;> cases d.offsetFiller.truthy <;> rfl

/-- **Marks, parameters and clauses are aligned.**  Of a statement that a builder makes of names that
are plain texts, the parameters are the values that the calls gave, in the order of the clauses; each
clause stands in the statement with the marks of its own values; and up to limit and offset, the
marks are those of the positions from 1 on, one for each parameter.  The marks of the whole statement
are these exactly if the sign of a mark is not written with limit and offset, that is, neither in a
count nor in what the dialect wants in place of a limit. -/
theorem build_aligned {calls : List BuilderCall} {st : Statement}
    (hcalls : ∀ c ∈ calls,
      c.IsRegular Value.IsPlainName (fun _ => False) (fun _ => True) catalog)
    (hstyle : d.style.IsKnown) (hq : Query.runCalls catalog {} calls = .ok q)
    (hst : q.build catalog d = .ok st) :
    toParameters ((Given.ofCalls calls).clauses.flatMap Clause.values) = .ok st.params ∧
      ∃ lead : String, st.sql = lead ++ q.pagingText d ∧
        (List.range' 1 st.params.length).mapM (fun i => d.style.mark (toString i)) =
          .ok (d.style.marksIn lead.toList) ∧
        ((List.range' 1 st.params.length).mapM (fun i => d.style.mark (toString i)) =
            .ok (d.style.marksIn st.sql.toList) ↔
          d.style.sign ∉ (q.pagingText d).toList) ∧
        ∀ earlier c later, (Given.ofCalls calls).clauses = earlier ++ c :: later →
          ∃ pre post : String,
            lead = pre ++ (c.text d.style (1 + Clause.total earlier) ++ post) ∧
            d.style.marksIn pre.toList = d.style.marks 1 (Clause.total earlier) := by
  have hg : (Given.ofCalls calls).Fits q := Given.fits_runCalls Given.fits_start hcalls hq
  have hregular : q.Regular Value.IsPlainName Condition.IsFit (fun _ => True) :=
    regular_runCalls (fun _ h => h.isPlainName) (fun _ h => h.elim) (fun _ h => h) hcalls hq
  obtain ⟨k, hk, hst⟩ := Result.bind_eq_ok.mp hst
  obtain ⟨sql, hsql, hst⟩ := Result.bind_eq_ok.mp hst
  cases hst
  obtain ⟨ps, hpieces, hwoven⟩ : ∃ lead, q.pieces k d = lead ++ (q.limitPart d ++ q.offsetPart) ∧
      Woven d.style (Given.ofCalls calls).clauses lead := pieces_woven hg hregular hk
  rw [hpieces] at hsql
  obtain ⟨lead, paging, hlead, hpaging, rfl⟩ := write_append_eq_ok hsql
  rw [write_paging] at hpaging
  cases hpaging
  rw [hpieces, holes_append, holes_paging, List.append_nil, hwoven.length_holes]
  have hweave := hwoven.text 1 lead hlead
  refine ⟨hwoven.params, lead, rfl, ?_, ?_, fun earlier c later hsplit => ?_⟩
  · rw [ParamStyle.marks_mapM hstyle, hweave.marksIn_eq]
  · rw [ParamStyle.marks_mapM hstyle, String.toList_append,
      hweave.marksIn_append (q.noDigit_pagingText d), Except.ok.injEq, List.self_eq_append_right,
      ParamStyle.marksIn_eq_nil_iff]
  · rw [hsplit] at hweave
    obtain ⟨pre, post, hsame, hpre⟩ := hweave.split
    refine ⟨.ofList pre, .ofList post, ?_, ?_⟩
    · rw [← String.toList_inj, hsame]
      simp only [String.toList_append, String.toList_ofList]
    · rw [String.toList_ofList]
      exact hpre.marksIn_eq

/-- The calls of an update with two assignments and three tests. -/
def updateCalls : List BuilderCall :=
  [.update (.argument (.value (.text "users")))
      (.map [(.text "name", .text "Ann"), (.text "age", .int 3)]),
    .whereColumn (.text "id") (.text "in") (.list [.int 1, .int 2]),
    .whereColumn (.text "email") (.text "is null") .null,
    .whereColumn (.text "age") (.text ">") (.int 1)]

/-- What these calls make. -/
def updateQuery : Query where
  kind := .text "UPDATE"
  table := .text "users"
  assignments := [(.text "name", .text "Ann"), (.text "age", .int 3)]
  conditions := [
    { column := .text "id", operator := .text "IN", values := some [.int 1, .int 2] },
    { column := .text "email", operator := .text "IS NULL" },
    { column := .text "age", operator := .text ">", value := .int 1 }]

theorem build_aligned_update : ∃ q st, Query.runCalls .empty {} updateCalls = .ok q ∧
    q.build .empty .postgresNumbered = .ok st ∧
    toParameters [.text "Ann", .int 3, .int 1, .int 2, .int 1] = .ok st.params ∧
    Dialect.postgresNumbered.style.marksIn st.sql.toList = ["$1", "$2", "$3", "$4", "$5"] := by
  have hq : Query.runCalls .empty {} updateCalls = .ok updateQuery := rfl
  have hbuilt : (updateQuery.build .empty .postgresNumbered).isOk = true := by
    decide +kernel
  obtain ⟨st, hst⟩ := Result.exists_eq_ok hbuilt
  have hcalls : ∀ c ∈ updateCalls,
      c.IsRegular Value.IsPlainName (fun _ => False) (fun _ => True) .empty := by
    simp only [updateCalls, List.forall_mem_cons]
    refine ⟨⟨⟨_, rfl⟩, ?_⟩, ⟨_, rfl⟩, ⟨_, rfl⟩, ⟨_, rfl⟩, List.forall_mem_nil _⟩
    intro es hes
    cases hes
    simp [Value.IsText]
  obtain ⟨hparams, -, -, -, hwhole, -⟩ :=
    build_aligned (d := .postgresNumbered) hcalls trivial hq hst
  have hvalues : (Given.ofCalls updateCalls).clauses.flatMap Clause.values =
      [.text "Ann", .int 3, .int 1, .int 2, .int 1] := by
    rfl
  rw [hvalues] at hparams
  have hlength : st.params.length = 5 := Result.length_of_mapM_eq_ok hparams
  rw [hlength] at hwhole
  -- an update has neither a limit nor an offset
  have hmarks := hwhole.mpr (by decide)
  exact ⟨_, st, hq, hst, hparams, (Except.ok.inj hmarks).symm⟩

/-- The calls of a page of users whose size is a labelled constant. -/
def sizedCalls (label : Label) (size : Int) : List BuilderCall :=
  [.select (.text "*") (.bool false), .fromTable (.argument (.value (.text "users"))),
    .limit (.intConstant label size)]

/-- Marks are not always as many as parameters: the label of a limit may have the sign of a mark. -/
theorem build_not_always_aligned :
    ¬ ∀ (catalog : Catalog) (d : Dialect) (calls : List BuilderCall) (q : Query) (st : Statement),
      (∀ c ∈ calls, c.IsRegular Value.IsPlainName (fun _ => False) (fun _ => True) catalog) →
      d ∈ Dialect.builtin → runCalls catalog {} calls = .ok q → q.build catalog d = .ok st →
      (d.style.marksIn st.sql.toList).length = st.params.length := by
  intro hall
  have hcalls : ∀ c ∈ sizedCalls ⟨"E", "?"⟩ 3,
      c.IsRegular Value.IsPlainName (fun _ => False) (fun _ => True) .empty := by
    simp only [sizedCalls, List.forall_mem_cons]
    exact ⟨nofun, ⟨_, rfl⟩, fun _ _ => trivial, List.forall_mem_nil _⟩
  have hbuilt : runCalls .empty {} (sizedCalls ⟨"E", "?"⟩ 3) >>= (fun q => q.build .empty .sqlite) =
      .ok ⟨"SELECT * FROM users LIMIT E.?", []⟩ := rfl
  obtain ⟨q, hq, hst⟩ := Result.bind_eq_ok.mp hbuilt
  have hcount := hall .empty .sqlite _ q _ hcalls (by simp [Dialect.builtin]) hq hst
  cases hcount

end Query

end RelMap
