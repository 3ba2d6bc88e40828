import RelMap.Proofs.Query.Reading

/-!
# Statements on several dialects

The dialects of the library write the same statement.  They differ in their marks, in the limit that
SQLite wants in front of an offset, and in whether a statement may return columns, and in nothing
else (`Query.build_portable`).

A text with marks is split into gaps, each of them followed by the mark at its position
(`ParamStyle.weave`), and what comes behind the last mark.  Pieces that are written in one style
have the same gaps in every other one (`Piece.exists_gaps`).
-/

namespace RelMap

namespace ParamStyle

/-- Some gaps, each followed by a mark; the marks are counted from a position on. -/
def weave (style : ParamStyle) : (position : Nat) → (gaps : List String) → String
  | _, [] => ""
  | k, gap :: gaps => gap ++ style.markAt k ++ weave style (k + 1) gaps

@[simp] theorem weave_nil (style : ParamStyle) (k : Nat) : style.weave k [] = "" := rfl

@[simp] theorem weave_cons (style : ParamStyle) (k : Nat) (gap : String) (gaps : List String) :
    style.weave k (gap :: gaps) = gap ++ style.markAt k ++ style.weave (k + 1) gaps := rfl

end ParamStyle

namespace Piece

variable {style : ParamStyle}

/-- Pieces that are written in one style are written in every known one, with the same gaps and as
many marks as there are holes. -/
theorem exists_gaps {ps : List Piece} {first : Nat} {s : String}
    (h : write style first ps = .ok s) :
    ∃ gaps last, gaps.length = (holes ps).length ∧ ∀ style' : ParamStyle, style'.IsKnown →
      ∀ first', write style' first' ps = .ok (style'.weave first' gaps ++ last) := by
  induction ps generalizing first s with
  | nil => exact ⟨[], "", rfl, fun style' _ first' => by simp [write]⟩
  | cons p ps ih =>
    cases hp : p.wording? with
    | some x =>
      obtain ⟨t, ht, -⟩ := write_worded_eq_ok hp h
      obtain ⟨gaps, last, hlength, hwrite⟩ := ih ht
      rw [holes_worded hp]
      -- the words belong to the gap before the next mark, or to the rest if none comes
      cases gaps with
      | nil =>
        refine ⟨[], x ++ last, hlength, fun style' hstyle first' => ?_⟩
        rw [write_worded hp, hwrite style' hstyle]
        simp [Except.map]
      | cons gap gaps =>
        refine ⟨(x ++ gap) :: gaps, last, hlength, fun style' hstyle first' => ?_⟩
        rw [write_worded hp, hwrite style' hstyle]
        simp [Except.map, String.append_assoc]
    | none =>
      cases p with
      | hole v =>
        obtain ⟨t, ht, -⟩ := write_hole_eq_ok h
        obtain ⟨gaps, last, hlength, hwrite⟩ := ih ht
        refine ⟨"" :: gaps, last, congrArg Nat.succ hlength, fun style' hstyle first' => ?_⟩
        simp only [write, ParamStyle.mark_eq_ok hstyle, hwrite style' hstyle]
        simp [Except.map, bind, Except.bind, String.append_assoc]
      | listed v =>
        have hv : v.textOf? = none := hp
        simp [write, hv] at h
      | _ => cases hp

end Piece

namespace Query

open Piece

variable {q : Query} {catalog : Catalog} {d d' : Dialect} {k : Kind} {style : ParamStyle}

/-- What is written in place of a limit that is not set, in front of an offset: only SQLite wants
anything there. -/
def missingLimit (q : Query) (d : Dialect) : String :=
  if q.offset.isNull = false ∧ q.limit.isNull = true ∧ d.name.textOf? = some "sqlite" then
    " LIMIT -1"
  else ""

theorem missingLimit_of_isNull (h : q.offset.isNull = true) (d : Dialect) :
    q.missingLimit d = "" := by
  simp [missingLimit, h]

/-- The offset as it is written on every dialect. -/
def offsetText (q : Query) : String :=
  if q.offset.isNull then "" else " OFFSET " ++ q.offset.display

theorem write_offset (hd : d ∈ Dialect.builtin) (first : Nat) :
    write style first (q.offsetPieces d) = .ok (q.missingLimit d ++ q.offsetText) := by
  unfold offsetPieces offsetText
  by_cases hoffset : q.offset.isNull = true
  · rw [missingLimit_of_isNull hoffset]
    simp [hoffset, write]
  · simp only [Dialect.builtin, List.mem_cons, List.not_mem_nil, or_false] at hd
    rcases hd with rfl | rfl | rfl | rfl <;> by_cases hlimit : q.limit.isNull = true <;>
      simp [hoffset, hlimit, missingLimit, write, Except.map, Dialect.generic, Dialect.sqlite,
        Dialect.postgres, Dialect.postgresNumbered, Value.truthy, Value.display, Value.textOf?]

theorem holes_offset (q : Query) (d : Dialect) : holes (q.offsetPieces d) = [] := by
  unfold offsetPieces
  by_cases hoffset : q.offset.isNull = true
  · rw [if_pos hoffset]
    rfl
  · rw [if_neg hoffset]
    split <;> rfl

/-- Statements that select no rows have no offset. -/
theorem offset_isNull (hk : k ≠ .select) (h : q.validateParts k = .ok ()) :
    q.offset.isNull = true := by
  have hpaging : q.forbidPaging = .ok () := by
    cases k with
    | select => exact (hk rfl).elim
    | insert =>
      obtain ⟨-, -, -, -, hpaging⟩ := row_of_validateParts h
      exact hpaging
    | update =>
      obtain ⟨-, -, -, -, hpaging⟩ := assignments_of_validateParts h
      exact hpaging
    | delete =>
      obtain ⟨-, -, -, -, hpaging⟩ := conditions_of_validateParts h
      exact hpaging
  unfold forbidPaging at hpaging
  split at hpaging
  · cases hpaging
  · next hset =>
    have hnull : (q.ordering = [] ∧ q.limit.isNull = true) ∧ q.offset.isNull = true := by
      simpa using hset
    exact hnull.2

theorem returningPieces_of_select (h : q.validateParts .select = .ok ()) :
    q.returningPieces = [] := by
  unfold validateParts at h
  dsimp only at h
  split at h
  · cases h
  · obtain ⟨u, -, h⟩ := Result.bind_eq_ok.mp h
    split at h
    · next hreturning => rw [returningPieces, if_pos hreturning]
    · cases h

/-- A statement begins on every dialect with the same pieces and ends with the same text; what
SQLite wants in place of a limit comes in between. -/
theorem exists_lead (h : q.validateParts k = .ok ()) :
    ∃ lead tail, ∀ d ∈ Dialect.builtin, holes (q.pieces k d) = holes lead ∧
      ∀ (style : ParamStyle) first, write style first (q.pieces k d) =
        (write style first lead).map (· ++ (q.missingLimit d ++ tail)) := by
  by_cases hk : k = .select
  · subst hk
    refine ⟨.fixed (if q.distinct.truthy then "SELECT DISTINCT " else "SELECT ") ::
      (nameList q.columns ++ [.fixed " FROM ", q.tablePiece] ++ q.wherePieces ++ q.orderPieces ++
        q.limitPieces), q.offsetText, fun d hd => ?_⟩
    have hpieces : q.pieces .select d = q.selectPieces d := by
      rw [pieces, returningPieces_of_select h, List.append_nil]
    rw [hpieces, selectPieces, ← List.cons_append]
    constructor
    · rw [holes_append, holes_offset, List.append_nil]
    · intro style first
      rw [write_append, write_offset hd]
      rfl
  · refine ⟨q.pieces k .generic, "", fun d _ => ?_⟩
    have hpieces : q.pieces k d = q.pieces k .generic := by
      cases k with
      | select => exact (hk rfl).elim
      | _ => rfl
    rw [hpieces, missingLimit_of_isNull (offset_isNull hk h)]
    refine ⟨rfl, fun style first => ?_⟩
    cases write style first (q.pieces k .generic) <;> simp [Except.map]

theorem isKnown_of_builtin (hd : d ∈ Dialect.builtin) : d.style.IsKnown := by
  simp only [Dialect.builtin, List.mem_cons, List.not_mem_nil, or_false] at hd
  rcases hd with rfl | rfl | rfl | rfl <;> trivial

/-- A query that passes the checks for one dialect passes them for another, unless it asks for
columns that the other cannot return. -/
theorem validate_of_dialect (h : q.validate catalog d = .ok k) (d' : Dialect) :
    q.validate catalog d' =
      if q.returning ≠ [] ∧ d'.returning.truthy = false then
        .error (.returningUnsupported d'.name)
      else .ok k := by
  obtain ⟨htable, hparts, hof⟩ := validate_eq_ok h
  have hkind : q.kind.isNull = false := by
    cases hnull : q.kind with
    | null =>
      rw [hnull] at hof
      cases hof
    | _ => rfl
  simp only [validate, hkind, htable, hof, hparts, Bool.false_eq_true, if_false] at h ⊢
  obtain ⟨-, -, hcolumns⟩ := Result.bind_eq_ok.mp h
  split at hcolumns
  · cases hcolumns
  · by_cases hreturning : q.returning = []
    · simp only [hreturning, ne_eq, not_true_eq_false, false_and, if_false]
      exact hcolumns
    · by_cases hallowed : d'.returning.truthy = true
      · simp only [hallowed, Bool.not_true, Bool.and_false, Bool.true_eq_false, and_false,
          Bool.false_eq_true, if_false]
        exact hcolumns
      · simp [hreturning, hallowed]
        rfl

/-- **Statements are portable.**  A query that is built for one dialect of the library is built for
every other one, unless it asks for columns that the other cannot return.  The parameters are the
same, and so are the texts, but for the marks, which stand in the same gaps, and the limit that
SQLite wants in front of an offset. -/
theorem build_portable (hd : d ∈ Dialect.builtin) (hd' : d' ∈ Dialect.builtin) {st : Statement}
    (h : q.build catalog d = .ok st) :
    (∃ st' gaps front back, q.build catalog d' = .ok st' ∧ st'.params = st.params ∧
        gaps.length = st.params.length ∧
        st.sql = d.style.weave 1 gaps ++ front ++ q.missingLimit d ++ back ∧
        st'.sql = d'.style.weave 1 gaps ++ front ++ q.missingLimit d' ++ back) ∨
      q.build catalog d' = .error (.returningUnsupported d'.name) ∧ q.returning ≠ [] ∧
        d'.returning.truthy = false := by
  obtain ⟨k, hk, h⟩ := Result.bind_eq_ok.mp h
  obtain ⟨sql, hsql, h⟩ := Result.bind_eq_ok.mp h
  cases h
  have hvalidate := validate_of_dialect hk d'
  by_cases hreturning : q.returning ≠ [] ∧ d'.returning.truthy = false
  · right
    rw [if_pos hreturning] at hvalidate
    rw [build, hvalidate]
    exact ⟨rfl, hreturning⟩
  · left
    rw [if_neg hreturning] at hvalidate
    obtain ⟨-, hparts, -⟩ := validate_eq_ok hk
    obtain ⟨lead, back, hlead⟩ := exists_lead hparts
    obtain ⟨hholes, hwrite⟩ := hlead d hd
    obtain ⟨hholes', hwrite'⟩ := hlead d' hd'
    rw [hwrite] at hsql
    obtain ⟨text, htext, rfl⟩ := Result.map_eq_ok.mp hsql
    obtain ⟨gaps, front, hlength, hgaps⟩ := exists_gaps htext
    rw [hgaps _ (isKnown_of_builtin hd)] at htext
    cases htext
    refine ⟨⟨d'.style.weave 1 gaps ++ front ++ (q.missingLimit d' ++ back), holes lead⟩, gaps,
      front, back, ?_, ?_, ?_, ?_, ?_⟩
    · rw [build, hvalidate]
      simp only [bind, Except.bind, hwrite', hholes', hgaps _ (isKnown_of_builtin hd')]
      rfl
    · exact hholes.symm
    · rw [hlength, hholes]
    · exact String.append_assoc.symm
    · exact String.append_assoc.symm

/-- The calls for all but the first rows of a table that pass two tests. -/
def restCalls : List BuilderCall :=
  [.select (.text "*") (.bool false), .fromTable (.argument (.value (.text "users"))),
    .whereColumn (.text "name") (.text "like") (.text "A%"),
    .whereComparison .gt (.text "age") (some (.int 30)) .null, .offset (.int 10)]

theorem build_portable_rest : ∃ q st st' gaps front back,
    runCalls .empty {} restCalls = .ok q ∧ q.build .empty .postgresNumbered = .ok st ∧
      q.build .empty .sqlite = .ok st' ∧ st'.params = st.params ∧
      gaps.length = st.params.length ∧
      st.sql = ParamStyle.numbered.weave 1 gaps ++ front ++ q.missingLimit .postgresNumbered ++
        back ∧
      st'.sql = ParamStyle.question.weave 1 gaps ++ front ++ q.missingLimit .sqlite ++ back := by
  have hbuilt : (runCalls .empty {} restCalls >>= fun q =>
      q.build .empty .postgresNumbered).isOk = true := by
    decide +kernel
  obtain ⟨st, hst⟩ := Result.exists_eq_ok hbuilt
  obtain ⟨q, hq, hst⟩ := Result.bind_eq_ok.mp hst
  have hd : .postgresNumbered ∈ Dialect.builtin := by simp [Dialect.builtin]
  have hd' : .sqlite ∈ Dialect.builtin := by simp [Dialect.builtin]
  rcases build_portable hd hd' hst with
    ⟨st', gaps, front, back, hbuild, hparams, hlength, hsql, hsql'⟩ | ⟨-, -, hreturning⟩
  · exact ⟨q, st, st', gaps, front, back, hq, hst, hbuild, hparams, hlength, hsql, hsql'⟩
  · cases hreturning

/-- Where SQLite wants a limit, it is written between the last mark and the offset. -/
example :
    (runCalls .empty {} restCalls >>= fun q => q.build .empty .sqlite).toOption.map
      Statement.sql =
        some "SELECT * FROM users WHERE name LIKE ? AND age > ? LIMIT -1 OFFSET 10" := by
  decide +kernel

end Query

end RelMap
