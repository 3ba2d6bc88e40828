import Mathlib
import RelMap.Proofs.Query.Alignment
import RelMap.Proofs.Query.Reader

/-!
# Statements are read back

What is written for a regular query with plain counts is read back as that query, clause by clause
and kind by kind.  So two queries that are built to one statement describe the same
(`Query.build_unambiguous`).  A count that is given by a labelled constant is written by its label,
so with such counts they need not (`Query.build_ambiguous_sizes`).
-/

namespace RelMap

open Piece Reader

variable {style : ParamStyle}

theorem Value.IsIdentifier.isWord {v : Value} (h : v.IsIdentifier) : v.IsWord := by
  obtain ⟨s, rfl, hs⟩ := h
  refine ⟨s, rfl, ?_⟩
  intro c hc
  exact isWordChar_of_isNameChar (Identifier.isNameChar_of_isIdentifier hs c hc)

theorem isWord_allColumns : Query.allColumns.IsWord := by
  refine ⟨"*", rfl, ?_⟩
  intro c hc
  obtain rfl : c = '*' := by simpa using hc
  decide

/-- The ordering with its direction as a truth value. -/
def Ordering.described (o : Ordering) : Ordering := ⟨o.column, .bool o.descending.truthy⟩

/-! ## Conditions, orderings and assignments -/

namespace Reader.Reads

theorem holeList {vs : List Value} (hvs : vs ≠ []) :
    Reads style (Reader.listOf ", " Reader.mark) (Piece.holeList vs) vs
      fun text => EndsWord text ∧ ¬ ", ".toList <+: text := by
  have hread : Reads style (Reader.listOf ", " Reader.mark)
      (separated ", " (vs.map fun v => [hole v])) (vs.map id) _ :=
    listOf (fun v _ => mark v) (fun _ => rfl) (by decide) hvs
  rwa [List.map_id] at hread

theorem nameList {vs : List Value} (hvs : vs ≠ []) (hwords : ∀ v ∈ vs, v.IsWord) :
    Reads style (Reader.listOf ", " Reader.name) (Piece.nameList vs) vs
      fun text => EndsWord text ∧ ¬ ", ".toList <+: text := by
  have hread : Reads style (Reader.listOf ", " Reader.name)
      (separated ", " (vs.map fun v => [listed v])) (vs.map id) _ :=
    listOf (fun v hv => name (hwords v hv) (.inr rfl)) (fun _ => rfl) (by decide) hvs
  rwa [List.map_id] at hread

theorem leads_space (ps : List Piece) {F : List Char → Prop} :
    Leads style (.fixed " " :: ps) EndsWord F :=
  leads_fixed (fun _ => rfl) ps

theorem condition {c : Condition} (hc : c.IsFit) (hfull : c.values ≠ some []) :
    Reads style Reader.condition c.pieces c EndsWord := by
  cases hc with
  | @unary column op hcolumn hop =>
    have hpieces : Condition.pieces { column, operator := .text op } =
        [.name column, .fixed " ", .operator (.text op)] := by
      simp [Condition.pieces, Condition.isUnary, Condition.hasOperator, Value.textOf?, hop]
    have hread : Reads style Reader.operator [.operator (.text op)] op EndsWord :=
      operator (List.mem_append_right _ hop)
    rw [hpieces]
    refine (name hcolumn.isWord (.inl rfl)).bind (.phrase (hread.bind ?_ (leads_nil fun _ h => h)))
      (leads_space _)
    rw [if_pos hop]
    exact .pure _
  | @sequence column op vs hcolumn hop =>
    have hunary : op ∉ unaryOperators := by
      have hapart : ∀ op ∈ sequenceOperators, op ∉ unaryOperators := by decide
      exact hapart op hop
    have hvs : vs ≠ [] := fun h => hfull (congrArg some h)
    have hpieces : Condition.pieces { column, operator := .text op, values := some vs } =
        .name column :: .fixed " " :: .operator (.text op) :: .fixed " (" ::
          (Piece.holeList vs ++ [.fixed ")"]) := by
      cases vs with
      | nil => exact (hvs rfl).elim
      | cons v vs =>
        simp [Condition.pieces, Condition.isUnary, Condition.hasOperator, Value.textOf?, hunary]
    have hread : Reads style Reader.operator [.operator (.text op)] op EndsWord :=
      operator (List.mem_append_left _ (List.mem_append_right _ hop))
    rw [hpieces]
    refine (name hcolumn.isWord (.inl rfl)).bind (.phrase (hread.bind ?_
      (leads_fixed (fun _ => rfl) _))) (leads_space _)
    rw [if_neg hunary, if_pos hop]
    refine .phrase ((holeList hvs).bind (.phrase (.pure _)) ?_)
    exact leads_fixed (fun text => ⟨rfl, by simp⟩) _
  | @binary column op v hcolumn hop =>
    have hbinary : op ∉ unaryOperators ∧ op ∉ sequenceOperators := by
      have hapart : ∀ op ∈ binaryOperators, op ∉ unaryOperators ∧ op ∉ sequenceOperators := by
        decide
      exact hapart op hop
    have hpieces : Condition.pieces { column, operator := .text op, value := v } =
        [.name column, .fixed " ", .operator (.text op), .fixed " ", .hole v] := by
      simp [Condition.pieces, Condition.isUnary, Condition.hasOperator, Value.textOf?, hbinary.1]
    have hread : Reads style Reader.operator [.operator (.text op)] op EndsWord :=
      operator (List.mem_append_left _ (List.mem_append_left _ hop))
    rw [hpieces]
    refine (name hcolumn.isWord (.inl rfl)).bind (.phrase (hread.bind ?_ (leads_space _)))
      (leads_space _)
    rw [if_neg hbinary.1, if_neg hbinary.2]
    exact .phrase (mark v).map

theorem ordering {o : Ordering} (hcolumn : o.column.IsIdentifier) :
    Reads style Reader.ordering
      [.name o.column, .fixed (if o.descending.truthy then " DESC" else " ASC")] o.described
      EndsWord := by
  have hends (x : String) (hx : ∀ text, EndsWord (x.toList ++ text)) :
      Leads style [.fixed x] EndsWord EndsWord :=
    leads_fixed hx []
  refine (name hcolumn.isWord (.inl rfl)).bind ?_ (hends _ ?_)
  · cases hdescending : o.descending.truthy with
    | true =>
      rw [Ordering.described, hdescending]
      exact .after (.pure _)
    | false =>
      rw [Ordering.described, hdescending]
      have hread : Reads style (Reader.phrase " ASC" >>= fun _ =>
          Pure.pure (⟨o.column, .bool false⟩ : Ordering)) [.fixed " ASC"]
          ⟨o.column, .bool false⟩ EndsWord := .phrase (.pure _)
      exact hread.elsewhere (by decide)
  · intro text
    split <;> rfl

theorem assignment {a : Cell} (hcolumn : a.1.IsIdentifier) :
    Reads style Reader.assignment [.name a.1, .fixed " = ", .hole a.2] a EndsWord := by
  refine (name hcolumn.isWord (.inl rfl)).bind (.phrase (mark a.2).map) ?_
  exact leads_fixed (fun _ => rfl) _

end Reader.Reads

/-! ## Clauses -/

/-- The text ends, or begins with one of some phrases. -/
def Follows (phrases : List String) (text : List Char) : Prop :=
  text = [] ∨ ∃ x ∈ phrases, x.toList <+: text

namespace Follows

variable {phrases : List String} {text : List Char}

theorem endsWord (h : Follows phrases text)
    (hphrases : ∀ x ∈ phrases, x.toList.head? = some ' ') : EndsWord text := by
  rcases h with rfl | ⟨x, hx, rest, rfl⟩
  · rfl
  · obtain ⟨cs, hcs⟩ := List.head?_eq_some_iff.mp (hphrases x hx)
    rw [hcs]
    rfl

theorem not_prefix (h : Follows phrases text) {s : String} (hs : s.toList ≠ [])
    (hphrases : ∀ x ∈ phrases, Apart s x) : ¬ s.toList <+: text := by
  rcases h with rfl | ⟨x, hx, rest, rfl⟩
  · simpa using hs
  · exact Apart.not_prefix (hphrases x hx) rest

theorem cons (h : Follows phrases text) (x : String) : Follows (x :: phrases) text :=
  h.imp_right fun ⟨y, hy, hprefix⟩ => ⟨y, List.mem_cons_of_mem x hy, hprefix⟩

/-- A clause that can be left out begins with its phrase, or what comes behind it follows. -/
theorem leads {b : Bool} {x : String} {ps : List Piece} :
    Leads style (if b then [] else .fixed x :: ps) (Follows (x :: phrases)) (Follows phrases) := by
  cases b with
  | true => exact leads_nil fun _ h => h.cons x
  | false => exact leads_fixed (fun _ => .inr ⟨x, List.mem_cons_self, List.prefix_append _ _⟩) ps

end Follows

namespace Query

variable {q : Query} {d : Dialect}

/-- The conditions, and what comes behind them, of statements of any kind. -/
def clausePieces (q : Query) (d : Dialect) : List Piece :=
  q.wherePieces ++ (q.orderPieces ++ (q.limitPart d ++ (q.offsetPart ++ q.returningPieces)))

theorem leads_returning (q : Query) :
    Leads style q.returningPieces (Follows [" RETURNING "]) (Follows []) :=
  Follows.leads

theorem leads_offset (q : Query) :
    Leads style q.offsetPart (Follows [" OFFSET ", " RETURNING "]) (Follows [" RETURNING "]) :=
  Follows.leads

/-- The words in place of a limit begin as a limit does. -/
theorem leads_limit (q : Query) (hd : d ∈ Dialect.builtin) :
    Leads style (q.limitPart d) (Follows [" LIMIT ", " OFFSET ", " RETURNING "])
      (Follows [" OFFSET ", " RETURNING "]) := by
  have hlimit (x : String) (hx : " LIMIT ".toList <+: x.toList) (ps : List Piece) :
      Leads style (.fixed x :: ps) (Follows [" LIMIT ", " OFFSET ", " RETURNING "])
        (Follows [" OFFSET ", " RETURNING "]) :=
    leads_fixed (fun _ => .inr ⟨_, List.mem_cons_self, hx.trans (List.prefix_append _ _)⟩) ps
  unfold limitPart
  split
  · exact hlimit " LIMIT " List.prefix_rfl _
  · split
    · next hfiller =>
      rw [d.display_offsetFiller hd (Bool.and_eq_true_iff.mp hfiller).2]
      exact hlimit _ (by decide) _
    · exact leads_nil fun _ h => h.cons " LIMIT "

theorem leads_order (q : Query) :
    Leads style q.orderPieces (Follows [" ORDER BY ", " LIMIT ", " OFFSET ", " RETURNING "])
      (Follows [" LIMIT ", " OFFSET ", " RETURNING "]) :=
  Follows.leads

theorem leads_where (q : Query) :
    Leads style q.wherePieces
      (Follows [" WHERE ", " ORDER BY ", " LIMIT ", " OFFSET ", " RETURNING "])
      (Follows [" ORDER BY ", " LIMIT ", " OFFSET ", " RETURNING "]) :=
  Follows.leads

theorem leads_clauses (q : Query) (hd : d ∈ Dialect.builtin) :
    Leads style (q.clausePieces d)
      (Follows [" WHERE ", " ORDER BY ", " LIMIT ", " OFFSET ", " RETURNING "]) (Follows []) :=
  q.leads_where.append (q.leads_order.append
    ((q.leads_limit hd).append (q.leads_offset.append q.leads_returning)))

end Query

namespace Reader.Reads

variable {q : Query} {d : Dialect}

section

variable {α ι : Type} {phrases : List String} {x sep : String} {r : Reader α} {f : ι → List Piece}
  {g : ι → α} {xs : List ι}

/-- A clause that lists what is left out if there is nothing. -/
theorem clause (hxs : ∀ x ∈ xs, Reads style r (f x) (g x) EndsWord)
    (hsep : ∀ text, EndsWord (sep.toList ++ text)) (hsome : x.toList ≠ [] ∧ sep.toList ≠ [])
    (hspace : ∀ y ∈ phrases, y.toList.head? = some ' ')
    (hx : ∀ y ∈ phrases, Apart x y) (hy : ∀ y ∈ phrases, Apart sep y) :
    Reads style (Reader.after x (Reader.listOf sep r) (Pure.pure []))
      (if xs.isEmpty then [] else .fixed x :: separated sep (xs.map f)) (xs.map g)
      (Follows phrases) := by
  cases xs with
  | nil => exact (Reads.pure []).otherwise (leads_nil fun text h => h.not_prefix hsome.1 hx)
  | cons y ys =>
    have hread := listOf hxs hsep hsome.2 (List.cons_ne_nil y ys)
    exact (hread.mono fun text h => ⟨h.endsWord hspace, h.not_prefix hsome.2 hy⟩).after

end

/-- A clause that gives a number of rows. -/
theorem counted {phrases : List String} {x : String} {v : Value} (hv : v = .null ∨ v.IsCount)
    (hsome : x.toList ≠ []) (hspace : ∀ y ∈ phrases, y.toList.head? = some ' ')
    (hx : ∀ y ∈ phrases, Apart x y) :
    Reads style (Reader.after x Reader.count (Pure.pure .null))
      (if v.isNull then [] else [.fixed x, .number v]) v (Follows phrases) := by
  rcases hv with rfl | hcount
  · have hnull : Reads style (Pure.pure Value.null) [] .null (Follows phrases) := .pure _
    exact hnull.otherwise (leads_nil fun text h => h.not_prefix hsome hx)
  · have hset : v.isNull = false := by
      obtain ⟨n, rfl⟩ := hcount
      rfl
    rw [hset]
    exact ((count hcount).mono fun text h => h.endsWord hspace).after

theorem wherePieces (hconditions : ∀ c ∈ q.conditions, c.IsFit)
    (hfull : ∀ c ∈ q.conditions, c.values ≠ some []) :
    Reads style (Reader.after " WHERE " (Reader.listOf " AND " Reader.condition) (Pure.pure []))
      q.wherePieces q.conditions
      (Follows [" ORDER BY ", " LIMIT ", " OFFSET ", " RETURNING "]) := by
  have hread : Reads style
      (Reader.after " WHERE " (Reader.listOf " AND " Reader.condition) (Pure.pure []))
      q.wherePieces (q.conditions.map id)
      (Follows [" ORDER BY ", " LIMIT ", " OFFSET ", " RETURNING "]) :=
    clause (fun c hc => condition (hconditions c hc) (hfull c hc)) (fun _ => rfl) (by decide)
      (by decide) (by decide) (by decide)
  rwa [List.map_id] at hread

theorem orderPieces (hordering : ∀ o ∈ q.ordering, o.column.IsIdentifier) :
    Reads style (Reader.after " ORDER BY " (Reader.listOf ", " Reader.ordering) (Pure.pure []))
      q.orderPieces (q.ordering.map Ordering.described)
      (Follows [" LIMIT ", " OFFSET ", " RETURNING "]) :=
  clause (fun o ho => ordering (hordering o ho)) (fun _ => rfl) (by decide) (by decide) (by decide)
    (by decide)

theorem returningPieces (hreturning : ∀ v ∈ q.returning, v.IsIdentifier) :
    Reads style (Reader.after " RETURNING " (Reader.listOf ", " Reader.name) (Pure.pure []))
      q.returningPieces q.returning (Follows []) := by
  have hread : Reads style
      (Reader.after " RETURNING " (Reader.listOf ", " Reader.name) (Pure.pure []))
      q.returningPieces (q.returning.map id) (Follows []) :=
    clause (fun v hv => name (hreturning v hv).isWord (.inr rfl)) (fun _ => rfl) (by decide)
      (by decide) (by decide) (by decide)
  rwa [List.map_id] at hread

theorem offsetPart (hoffset : q.offset = .null ∨ q.offset.IsCount) :
    Reads style (Reader.after " OFFSET " Reader.count (Pure.pure .null)) q.offsetPart q.offset
      (Follows [" RETURNING "]) :=
  counted hoffset (by decide) (by decide) (by decide)

/-- The words that stand in for a missing limit are read as none. -/
theorem filler : Reads style (Reader.after " LIMIT " Reader.count (Pure.pure .null))
    [.fixed " LIMIT -1"] .null EndsWord := by
  have hword : ∀ c ∈ "-1".toList, isWordChar c = true := List.all_eq_true.mp (by decide)
  have hminus : Reads style Reader.word [.fixed "-1"] "-1" EndsWord := word rfl hword
  have hcount : Reads style Reader.count [.fixed "-1"] .null EndsWord :=
    hminus.bind (.pure Value.null) (leads_nil fun _ h => h)
  intro first s text params hs htext
  have hsame : write style first [.fixed " LIMIT ", .fixed "-1"] =
      write style first [.fixed " LIMIT -1"] := rfl
  exact hcount.after first s text params (hsame.trans hs) htext

theorem limitPart (hlimit : q.limit = .null ∨ q.limit.IsCount) (hd : d ∈ Dialect.builtin) :
    Reads style (Reader.after " LIMIT " Reader.count (Pure.pure .null)) (q.limitPart d) q.limit
      (Follows [" OFFSET ", " RETURNING "]) := by
  have hspace : ∀ y ∈ [" OFFSET ", " RETURNING "], y.toList.head? = some ' ' := by decide
  have hread : Reads style (Reader.after " LIMIT " Reader.count (Pure.pure .null))
      (if q.limit.isNull then [] else [.fixed " LIMIT ", .number q.limit]) q.limit
      (Follows [" OFFSET ", " RETURNING "]) :=
    counted hlimit (by decide) hspace (by decide)
  unfold Query.limitPart
  cases hnull : q.limit.isNull with
  | false =>
    rw [hnull] at hread
    exact hread
  | true =>
    rw [hnull] at hread
    by_cases hfiller : (!q.offset.isNull && d.offsetFiller.truthy) = true
    · have hlone : q.limit = .null := by
        rcases hlimit with hlone | ⟨n, hn⟩
        · exact hlone
        · rw [hn] at hnull
          cases hnull
      have hwords : d.offsetFiller.display = "LIMIT -1" :=
        d.display_offsetFiller hd (Bool.and_eq_true_iff.mp hfiller).2
      rw [hlone, hwords]
      simp only [Bool.not_true, Bool.false_eq_true, if_false, if_pos hfiller]
      exact filler.mono fun text h => h.endsWord hspace
    · simp only [Bool.not_true, Bool.false_eq_true, if_false, if_neg hfiller]
      exact hread

/-- The clauses of a regular query are read back. -/
theorem clauses (hq : q.Regular Value.IsWord Condition.IsFit Value.IsCount)
    (hfull : ∀ c ∈ q.conditions, c.values ≠ some []) (hd : d ∈ Dialect.builtin) (head : Query) :
    Reads style (Reader.clauses head) (q.clausePieces d)
      { head with
        conditions := q.conditions, ordering := q.ordering.map Ordering.described
        limit := q.limit, offset := q.offset, returning := q.returning }
      (Follows []) :=
  (wherePieces hq.conditions hfull).bind
    ((orderPieces hq.ordering).bind
      ((limitPart hq.limit hd).bind
        ((offsetPart hq.offset).bind (returningPieces hq.returning).map q.leads_returning)
        (q.leads_offset.append q.leads_returning))
      ((q.leads_limit hd).append (q.leads_offset.append q.leads_returning)))
    (q.leads_order.append ((q.leads_limit hd).append (q.leads_offset.append q.leads_returning)))

end Reader.Reads

/-! ## Heads -/

namespace Query

variable {q : Query} {d : Dialect}

theorem leads_clauses_endsWord (q : Query) (hd : d ∈ Dialect.builtin) :
    Leads style (q.clausePieces d) EndsWord (Follows []) :=
  (q.leads_clauses hd).mono fun text h => h.endsWord (by decide)

theorem leads_clauses_listed (q : Query) (hd : d ∈ Dialect.builtin) :
    Leads style (q.clausePieces d) (fun text => EndsWord text ∧ ¬ ", ".toList <+: text)
      (Follows []) :=
  (q.leads_clauses hd).mono fun text h =>
    ⟨h.endsWord (by decide), h.not_prefix (by decide) (by decide)⟩

theorem pieces_select (q : Query) (d : Dialect) :
    q.pieces .select d =
      .fixed (if q.distinct.truthy then "SELECT DISTINCT " else "SELECT ") ::
        (nameList q.columns ++ .fixed " FROM " :: .name q.table :: q.clausePieces d) := by
  have hpaging : q.limitPieces ++ (q.offsetPieces d ++ q.returningPieces) =
      q.limitPart d ++ (q.offsetPart ++ q.returningPieces) := by
    rw [← List.append_assoc, paging_eq, List.append_assoc]
  simp only [pieces, selectPieces, clausePieces, tablePiece, List.cons_append, List.append_assoc,
    List.nil_append, hpaging]

/-- Statements other than queries have neither an order nor a limit nor an offset. -/
theorem clausePieces_of_forbidPaging (h : q.forbidPaging = .ok ()) :
    q.clausePieces d = q.wherePieces ++ q.returningPieces := by
  obtain ⟨hlimit, hoffset⟩ := List.append_eq_nil_iff.mp (paging_of_forbidPaging h d)
  unfold forbidPaging at h
  split at h
  · cases h
  · next hpaging =>
    simp only [Bool.or_eq_true, Bool.not_eq_true', not_or, Bool.not_eq_false] at hpaging
    simp [clausePieces, orderPieces, hlimit, hoffset, hpaging.1.1]

theorem pieces_insert (h : q.forbidPaging = .ok ()) (hconditions : q.conditions = []) :
    q.pieces .insert d = q.insertPieces ++ q.clausePieces d := by
  rw [clausePieces_of_forbidPaging h]
  simp [pieces, wherePieces, hconditions]

theorem pieces_update (h : q.forbidPaging = .ok ()) :
    q.pieces .update d =
      .fixed "UPDATE " :: .name q.table :: .fixed " SET " ::
        (separated ", " (q.assignments.map fun a => [Piece.name a.1, .fixed " = ", .hole a.2]) ++
          q.clausePieces d) := by
  rw [clausePieces_of_forbidPaging h]
  simp [pieces, updatePieces, tablePiece]

theorem pieces_delete (h : q.forbidPaging = .ok ()) :
    q.pieces .delete d = .fixed "DELETE FROM " :: .name q.table :: q.clausePieces d := by
  rw [clausePieces_of_forbidPaging h]
  simp [pieces, deletePieces, tablePiece]

/-- What a statement says of a query: not its model, and not whether rows are told apart in
statements that select none. -/
def described (q : Query) : Query :=
  { q with
    model := none
    distinct := .bool (Kind.ofValue? q.kind = some .select && q.distinct.truthy)
    defaultValues := .bool q.defaultValues.truthy
    ordering := q.ordering.map Ordering.described }

theorem described_select (hkind : q.kind = Kind.select.toValue)
    (h : q.validateParts .select = .ok ()) :
    q.described =
      { kind := Kind.select.toValue, table := q.table, columns := q.columns
        distinct := .bool q.distinct.truthy, conditions := q.conditions
        ordering := q.ordering.map Ordering.described
        limit := q.limit, offset := q.offset, returning := q.returning } := by
  obtain ⟨-, hvalues, hdefaults, hassignments, -⟩ := columns_of_validateParts h
  simp [described, hkind, hvalues, hdefaults, hassignments, Kind.ofValue?_toValue]

theorem described_insert (hkind : q.kind = Kind.insert.toValue)
    (h : q.validateParts .insert = .ok ()) :
    q.described =
      { kind := Kind.insert.toValue, table := q.table, values := q.values
        defaultValues := .bool q.defaultValues.truthy, conditions := q.conditions
        ordering := q.ordering.map Ordering.described
        limit := q.limit, offset := q.offset, returning := q.returning } := by
  obtain ⟨-, hcolumns, hassignments, -, -⟩ := row_of_validateParts h
  simp [described, hkind, hcolumns, hassignments, Kind.ofValue?_toValue]

theorem described_update (hkind : q.kind = Kind.update.toValue)
    (h : q.validateParts .update = .ok ()) :
    q.described =
      { kind := Kind.update.toValue, table := q.table, assignments := q.assignments
        conditions := q.conditions, ordering := q.ordering.map Ordering.described
        limit := q.limit, offset := q.offset, returning := q.returning } := by
  obtain ⟨-, hcolumns, hvalues, hdefaults, -⟩ := assignments_of_validateParts h
  simp [described, hkind, hcolumns, hvalues, hdefaults, Kind.ofValue?_toValue]

theorem described_delete (hkind : q.kind = Kind.delete.toValue)
    (h : q.validateParts .delete = .ok ()) :
    q.described =
      { kind := Kind.delete.toValue, table := q.table, conditions := q.conditions
        ordering := q.ordering.map Ordering.described
        limit := q.limit, offset := q.offset, returning := q.returning } := by
  obtain ⟨hcolumns, hvalues, hdefaults, hassignments, -⟩ := conditions_of_validateParts h
  simp [described, hkind, hcolumns, hvalues, hdefaults, hassignments, Kind.ofValue?_toValue]

end Query

namespace Reader.Reads

variable {q : Query} {d : Dialect}

/-- The first name of a list stands apart from what comes behind it. -/
theorem nameList_eq_cons {c : Value} {cs : List Value} {x : String} {ps : List Piece}
    {F : List Char → Prop} (hx : ∀ text, EndsWord (x.toList ++ text)) :
    ∃ qs, Piece.nameList (c :: cs) ++ .fixed x :: ps = .listed c :: qs ∧
      Leads style qs EndsWord F := by
  cases cs with
  | nil => exact ⟨.fixed x :: ps, rfl, leads_fixed hx ps⟩
  | cons c' cs => exact ⟨.fixed ", " :: _, rfl, leads_fixed (fun _ => rfl) _⟩

/-- Names other than the word itself are not taken for the word that leaves out equal rows. -/
theorem leads_columns {columns : List Value} (hwords : ∀ v ∈ columns, v.IsWord)
    (hne : columns ≠ []) (hdistinct : ∀ v ∈ columns, v ≠ .text "DISTINCT") {ps : List Piece} :
    Leads style (.fixed "SELECT " :: (Piece.nameList columns ++ .fixed " FROM " :: ps))
      (fun text => ¬ "SELECT DISTINCT ".toList <+: text) (Follows []) := by
  intro first s text hs htext hprefix
  obtain ⟨t, ht, rfl⟩ := write_worded_eq_ok (x := "SELECT ") rfl hs
  cases columns with
  | nil => exact hne rfl
  | cons c cs =>
    obtain ⟨w, rfl, hw⟩ := hwords c List.mem_cons_self
    obtain ⟨qs, hqs, hleads⟩ :=
      @nameList_eq_cons style (.text w) cs " FROM " ps (Follows []) fun _ => rfl
    rw [hqs] at ht
    obtain ⟨y, hy, rfl⟩ := write_worded_eq_ok (x := w) rfl ht
    obtain ⟨z, hz⟩ := hprefix
    have hsame : "DISTINCT".toList ++ (" ".toList ++ z) = w.toList ++ (y.toList ++ text) := by
      have hlong : "SELECT ".toList ++ ("DISTINCT".toList ++ (" ".toList ++ z)) =
          "SELECT ".toList ++ (w.toList ++ (y.toList ++ text)) := by
        simpa [String.toList_append] using hz
      exact List.append_cancel_left hlong
    have hread : Reader.word ⟨w.toList ++ (y.toList ++ text), []⟩ =
        some (.ofList w.toList, ⟨y.toList ++ text, []⟩) :=
      word_append hw (hleads _ y text hy htext)
    have hread' : Reader.word ⟨"DISTINCT".toList ++ (" ".toList ++ z), []⟩ =
        some ("DISTINCT", ⟨" ".toList ++ z, []⟩) :=
      word_append (List.all_eq_true.mp (by decide)) rfl
    rw [hsame, hread, String.ofList_toList] at hread'
    have hword : w = "DISTINCT" := congrArg Prod.fst (Option.some.inj hread')
    exact hdistinct _ List.mem_cons_self (congrArg Value.text hword)

theorem isWord_of_mem_columns (hq : q.Regular Value.IsWord Condition.IsFit Value.IsCount) :
    ∀ v ∈ q.columns, v.IsWord := by
  intro v hv
  rcases hq.columns v hv with rfl | hid
  · exact isWord_allColumns
  · exact hid.isWord

/-- The query has a table that is written as one word, and reads back. -/
theorem selection (hq : q.Regular Value.IsWord Condition.IsFit Value.IsCount)
    (htable : q.table.IsWord) (hfull : ∀ c ∈ q.conditions, c.values ≠ some [])
    (hd : d ∈ Dialect.builtin) (hcolumns : q.columns ≠ []) (distinct : Bool) :
    Reads style (Reader.selection distinct)
      (Piece.nameList q.columns ++ .fixed " FROM " :: .name q.table :: q.clausePieces d)
      { kind := Kind.select.toValue, table := q.table, columns := q.columns
        distinct := .bool distinct, conditions := q.conditions
        ordering := q.ordering.map Ordering.described
        limit := q.limit, offset := q.offset, returning := q.returning }
      (Follows []) := by
  refine (nameList hcolumns (isWord_of_mem_columns hq)).bind (.phrase ((name htable (.inl rfl)).bind
    (clauses hq hfull hd _) (q.leads_clauses_endsWord hd))) ?_
  exact leads_fixed (fun text => ⟨rfl, by simp⟩) _

theorem insertion (hq : q.Regular Value.IsWord Condition.IsFit Value.IsCount)
    (htable : q.table.IsWord) (hfull : ∀ c ∈ q.conditions, c.values ≠ some [])
    (hd : d ∈ Dialect.builtin) (hvalues : q.values = [] → q.defaultValues.truthy = true) :
    ∃ ps, q.insertPieces ++ q.clausePieces d = .fixed "INSERT INTO " :: ps ∧
      Reads style Reader.insertion ps
        { kind := Kind.insert.toValue, table := q.table, values := q.values
          defaultValues := .bool q.defaultValues.truthy, conditions := q.conditions
          ordering := q.ordering.map Ordering.described
          limit := q.limit, offset := q.offset, returning := q.returning }
        (Follows []) := by
  unfold Query.insertPieces
  cases hdefaults : q.defaultValues.truthy with
  | true =>
    refine ⟨.name q.table :: .fixed " DEFAULT VALUES" :: q.clausePieces d, rfl, ?_⟩
    rw [hq.defaults hdefaults]
    exact (name htable (.inl rfl)).bind (.after (clauses hq hfull hd _))
      (leads_fixed (fun _ => rfl) _)
  | false =>
    have hrow : q.values ≠ [] := by
      intro hnone
      rw [hvalues hnone] at hdefaults
      cases hdefaults
    have hnames : q.values.map Prod.fst ≠ [] := by simpa using hrow
    have hmarks : q.values.map Prod.snd ≠ [] := by simpa using hrow
    have hwords : ∀ v ∈ q.values.map Prod.fst, v.IsWord := by
      intro v hv
      obtain ⟨c, hc, rfl⟩ := List.mem_map.mp hv
      exact (hq.values c hc).isWord
    have hcells : (q.values.map Prod.fst).zip (q.values.map Prod.snd) = q.values :=
      (List.zip_of_prod rfl rfl).symm
    refine ⟨.name q.table :: .fixed " (" :: (Piece.nameList (q.values.map Prod.fst) ++
      .fixed ") VALUES (" :: (Piece.holeList (q.values.map Prod.snd) ++
        .fixed ")" :: q.clausePieces d)), by simp [Query.tablePiece], ?_⟩
    refine (name htable (.inl rfl)).bind ?_ (leads_fixed (fun _ => rfl) _)
    refine Reads.elsewhere ?_ (by decide)
    refine .phrase ((nameList hnames hwords).bind (.phrase ((holeList hmarks).bind (.phrase ?_)
      (leads_fixed (fun text => ⟨rfl, by simp⟩) _))) (leads_fixed (fun text => ⟨rfl, by simp⟩) _))
    rw [hcells]
    exact clauses hq hfull hd _

theorem update (hq : q.Regular Value.IsWord Condition.IsFit Value.IsCount)
    (htable : q.table.IsWord) (hfull : ∀ c ∈ q.conditions, c.values ≠ some []) (hd : d ∈ Dialect.builtin)
    (hassignments : q.assignments ≠ []) :
    Reads style Reader.update
      (.name q.table :: .fixed " SET " ::
        (separated ", " (q.assignments.map fun a => [Piece.name a.1, .fixed " = ", .hole a.2]) ++
          q.clausePieces d))
      { kind := Kind.update.toValue, table := q.table, assignments := q.assignments
        conditions := q.conditions, ordering := q.ordering.map Ordering.described
        limit := q.limit, offset := q.offset, returning := q.returning }
      (Follows []) := by
  have hread : Reads style (Reader.listOf ", " Reader.assignment)
      (separated ", " (q.assignments.map fun a => [Piece.name a.1, .fixed " = ", .hole a.2]))
      (q.assignments.map id) _ :=
    listOf (fun a ha => assignment (hq.assignments a ha)) (fun _ => rfl) (by decide) hassignments
  rw [List.map_id] at hread
  refine (name htable (.inl rfl)).bind (.phrase (hread.bind ?_ (q.leads_clauses_listed hd)))
    (leads_fixed (fun _ => rfl) _)
  exact clauses hq hfull hd _

theorem deletion (hq : q.Regular Value.IsWord Condition.IsFit Value.IsCount)
    (htable : q.table.IsWord) (hfull : ∀ c ∈ q.conditions, c.values ≠ some [])
    (hd : d ∈ Dialect.builtin) :
    Reads style Reader.deletion (.name q.table :: q.clausePieces d)
      { kind := Kind.delete.toValue, table := q.table, conditions := q.conditions
        ordering := q.ordering.map Ordering.described
        limit := q.limit, offset := q.offset, returning := q.returning }
      (Follows []) :=
  (name htable (.inl rfl)).bind (clauses hq hfull hd _) (q.leads_clauses_endsWord hd)

/-- A statement of any kind is read back. -/
theorem query (hq : q.Regular Value.IsWord Condition.IsFit Value.IsCount) (htable : q.table.IsWord)
    (hfull : ∀ c ∈ q.conditions, c.values ≠ some [])
    (hdistinct : ∀ v ∈ q.columns, v ≠ .text "DISTINCT") (hd : d ∈ Dialect.builtin) {k : Kind}
    (hkind : q.kind = k.toValue) (hparts : q.validateParts k = .ok ()) :
    Reads style Reader.query (q.pieces k d) q.described (Follows []) := by
  cases k with
  | select =>
    have hcolumns := (Query.columns_of_validateParts hparts).1
    have hwords := isWord_of_mem_columns hq
    have hread (distinct : Bool) : Reads style (Reader.selection distinct) _ _ _ :=
      selection hq htable hfull hd hcolumns distinct
    rw [Query.pieces_select, Query.described_select hkind hparts]
    cases q.distinct.truthy with
    | true => exact (hread true).after
    | false => exact (hread false).after.otherwise (leads_columns hwords hcolumns hdistinct)
  | insert =>
    obtain ⟨hvalues, -, -, hconditions, hpaging⟩ := Query.row_of_validateParts hparts
    obtain ⟨ps, hps, hread⟩ := insertion hq htable hfull hd hvalues
    rw [Query.pieces_insert hpaging hconditions, hps, Query.described_insert hkind hparts]
    exact (hread.after.elsewhere (by decide)).elsewhere (by decide)
  | update =>
    obtain ⟨hassignments, -, -, -, hpaging⟩ := Query.assignments_of_validateParts hparts
    have hread : Reads style Reader.update _ _ _ := update hq htable hfull hd hassignments
    rw [Query.pieces_update hpaging, Query.described_update hkind hparts]
    exact ((hread.after.elsewhere (by decide)).elsewhere (by decide)).elsewhere (by decide)
  | delete =>
    obtain ⟨-, -, -, -, hpaging⟩ := Query.conditions_of_validateParts hparts
    have hread : Reads style Reader.deletion _ _ _ := deletion hq htable hfull hd
    rw [Query.pieces_delete hpaging, Query.described_delete hkind hparts]
    exact (((hread.after.elsewhere (by decide)).elsewhere (by decide)).elsewhere
      (by decide)).elsewhere (by decide)

end Reader.Reads

/-! ## Statements -/

namespace Query

variable {q q' : Query} {catalog catalog' : Catalog} {d d' : Dialect}

/-- The queries describe the same. -/
structure SameDescription (q q' : Query) : Prop where
  kind : q.kind = q'.kind
  table : q.table = q'.table
  columns : q.columns = q'.columns
  distinct : q.kind = Kind.select.toValue → q.distinct.truthy = q'.distinct.truthy
  values : q.values = q'.values
  defaultValues : q.defaultValues.truthy = q'.defaultValues.truthy
  assignments : q.assignments = q'.assignments
  conditions : q.conditions = q'.conditions
  ordering : q.ordering.map Ordering.described = q'.ordering.map Ordering.described
  limit : q.limit = q'.limit
  offset : q.offset = q'.offset
  returning : q.returning = q'.returning

theorem sameDescription_of_described (h : q.described = q'.described) : q.SameDescription q' := by
  simp only [described, mk.injEq, true_and, Value.bool.injEq] at h
  obtain ⟨hkind, htable, hcolumns, hdistinct, hvalues, hdefaults, hassignments, hconditions,
    hordering, hlimit, hoffset, hreturning⟩ := h
  refine ⟨hkind, htable, hcolumns, ?_, hvalues, hdefaults, hassignments, hconditions, hordering,
    hlimit, hoffset, hreturning⟩
  intro hselect
  rw [← hkind, hselect] at hdistinct
  simpa [Kind.ofValue?_toValue] using hdistinct

/-- What is built of a regular caller's calls is read back. -/
theorem read_of_build (hd : d ∈ Dialect.builtin) {calls : List BuilderCall} {st : Statement}
    (hcalls : ∀ c ∈ calls, c.IsRegular Value.IsWord Condition.IsFit Value.IsCount catalog)
    (hq : runCalls catalog {} calls = .ok q) (hdistinct : ∀ v ∈ q.columns, v ≠ .text "DISTINCT")
    (hfull : ∀ c ∈ q.conditions, c.values ≠ some []) (hst : q.build catalog d = .ok st) :
    st.read = some q.described := by
  have hregular : q.Regular Value.IsWord Condition.IsFit Value.IsCount :=
    regular_runCalls (fun _ h => h.isWord) (fun _ h => h) (fun _ h => h) hcalls hq
  obtain ⟨k, hk, hst⟩ := Result.bind_eq_ok.mp hst
  obtain ⟨sql, hsql, hst⟩ := Result.bind_eq_ok.mp hst
  cases hst
  obtain ⟨hset, hparts, hof⟩ := validate_eq_ok hk
  have htable : q.table.IsWord := by
    rcases hregular.table with hnull | hword
    · rw [hset] at hnull
      cases hnull
    · exact hword
  have hkind : q.kind = k.toValue := by
    rcases hregular.kind with hnull | ⟨k', hk'⟩
    · rw [hnull] at hof
      cases hof
    · rw [hk', Kind.ofValue?_toValue] at hof
      rw [hk', Option.some.inj hof]
  have hread := Reads.query hregular htable hfull hdistinct hd hkind hparts 1 sql [] [] hsql
    (.inl rfl)
  simp only [List.append_nil] at hread
  simp only [Statement.read, hread]

/-- Two queries of regular callers with plain counts that are built to one statement describe the
same, which is what the statement is read as.  Of the words that the library writes, names may be any
but one: no column that is asked for may be called as the word that leaves out equal rows. -/
theorem build_unambiguous (hd : d ∈ Dialect.builtin) (hd' : d' ∈ Dialect.builtin)
    {calls calls' : List BuilderCall} {st : Statement}
    (hcalls : ∀ c ∈ calls, c.IsRegular Value.IsWord Condition.IsFit Value.IsCount catalog)
    (hcalls' : ∀ c ∈ calls', c.IsRegular Value.IsWord Condition.IsFit Value.IsCount catalog')
    (hq : runCalls catalog {} calls = .ok q) (hq' : runCalls catalog' {} calls' = .ok q')
    (hdistinct : ∀ v ∈ q.columns, v ≠ .text "DISTINCT")
    (hdistinct' : ∀ v ∈ q'.columns, v ≠ .text "DISTINCT")
    (hfull : ∀ c ∈ q.conditions, c.values ≠ some [])
    (hfull' : ∀ c ∈ q'.conditions, c.values ≠ some [])
    (hst : q.build catalog d = .ok st) (hst' : q'.build catalog' d' = .ok st) :
    st.read = some q.described ∧ q.SameDescription q' := by
  have hread := read_of_build hd hcalls hq hdistinct hfull hst
  have hread' := read_of_build hd' hcalls' hq' hdistinct' hfull' hst'
  rw [hread] at hread'
  exact ⟨hread, sameDescription_of_described (Option.some.inj hread')⟩

/-- The calls of a page of users; operators and directions can be spelled in several ways. -/
def pageCalls (operator descending : Value) : List BuilderCall :=
  [.select (.list [.text "id", .text "name"]) (.bool true),
    .fromTable (.argument (.value (.text "users"))),
    .whereColumn (.text "id") operator (.list [.int 1, .int 2]),
    .whereComparison .isNull (.text "email") none .null,
    .orderBy (.text "name") descending, .offset (.int 5)]

/-- What these calls make. -/
def pageQuery (descending : Value) : Query where
  kind := .text "SELECT"
  table := .text "users"
  columns := [.text "id", .text "name"]
  distinct := .bool true
  conditions := [
    { column := .text "id", operator := .text "NOT IN", values := some [.int 1, .int 2] },
    { column := .text "email", operator := .text "IS NULL" }]
  ordering := [⟨.text "name", descending⟩]
  offset := .int 5

theorem build_unambiguous_page : ∃ st,
    runCalls .empty {} (pageCalls (.text "NOT IN") (.bool true)) = .ok (pageQuery (.bool true)) ∧
    runCalls .empty {} (pageCalls (.text "not  in") (.int 1)) = .ok (pageQuery (.int 1)) ∧
    (pageQuery (.bool true)).build .empty .sqlite = .ok st ∧
    (pageQuery (.int 1)).build .empty .sqlite = .ok st ∧
    st.read = some (pageQuery (.bool true)).described ∧
    (pageQuery (.bool true)).SameDescription (pageQuery (.int 1)) := by
  have hq : runCalls .empty {} (pageCalls (.text "NOT IN") (.bool true)) =
      .ok (pageQuery (.bool true)) := by
    cbv
  have hq' : runCalls .empty {} (pageCalls (.text "not  in") (.int 1)) =
      .ok (pageQuery (.int 1)) := by
    cbv
  have hst : (pageQuery (.bool true)).build .empty .sqlite =
      .ok ⟨"SELECT DISTINCT id, name FROM users WHERE id NOT IN (?, ?) AND email IS NULL " ++
        "ORDER BY name DESC LIMIT -1 OFFSET 5", [.int 1, .int 2]⟩ := by
    cbv
  have hst' : (pageQuery (.int 1)).build .empty .sqlite =
      .ok ⟨"SELECT DISTINCT id, name FROM users WHERE id NOT IN (?, ?) AND email IS NULL " ++
        "ORDER BY name DESC LIMIT -1 OFFSET 5", [.int 1, .int 2]⟩ := by
    cbv
  have hcalls (operator descending : Value) : ∀ c ∈ pageCalls operator descending,
      c.IsRegular Value.IsWord Condition.IsFit Value.IsCount .empty := by
    simp only [pageCalls, List.forall_mem_cons]
    refine ⟨?_, ⟨_, rfl⟩, ⟨_, rfl⟩, ⟨_, rfl⟩, ⟨_, rfl⟩, ?_, List.forall_mem_nil _⟩
    · intro _ items hitems
      cases hitems
      simp [Value.IsText]
    · exact fun v hv => ⟨5, (exists_of_count hv).1⟩
  have hbuiltin : Dialect.sqlite ∈ Dialect.builtin := by simp [Dialect.builtin]
  have hdistinct (descending : Value) :
      ∀ v ∈ (pageQuery descending).columns, v ≠ .text "DISTINCT" := by
    simp [pageQuery]
  have hfull (descending : Value) :
      ∀ c ∈ (pageQuery descending).conditions, c.values ≠ some [] := by
    simp [pageQuery]
  have hunambiguous := build_unambiguous hbuiltin hbuiltin (hcalls _ _) (hcalls _ _) hq hq'
    (hdistinct _) (hdistinct _) (hfull _) (hfull _) hst hst'
  exact ⟨_, hq, hq', hst, hst', hunambiguous.1, hunambiguous.2⟩

/-- What the calls of a sized page make. -/
def sizedQuery (label : Label) (size : Int) : Query where
  kind := .text "SELECT"
  table := .text "users"
  columns := [.text "*"]
  distinct := .bool false
  limit := .intConstant label size

/-- Pages of three and of fifty users are built to one statement, if both sizes have one label. -/
theorem build_ambiguous_sizes :
    runCalls .empty {} (sizedCalls ⟨"E", "M"⟩ 3) = .ok (sizedQuery ⟨"E", "M"⟩ 3) ∧
    runCalls .empty {} (sizedCalls ⟨"E", "M"⟩ 50) = .ok (sizedQuery ⟨"E", "M"⟩ 50) ∧
    (sizedQuery ⟨"E", "M"⟩ 3).build .empty .sqlite = .ok ⟨"SELECT * FROM users LIMIT E.M", []⟩ ∧
    (sizedQuery ⟨"E", "M"⟩ 50).build .empty .sqlite = .ok ⟨"SELECT * FROM users LIMIT E.M", []⟩ ∧
    ¬ (sizedQuery ⟨"E", "M"⟩ 3).SameDescription (sizedQuery ⟨"E", "M"⟩ 50) := by
  refine ⟨by cbv, by cbv, by cbv, by cbv, fun hsame => ?_⟩
  have hlimit := hsame.limit
  simp [sizedQuery] at hlimit

end Query

end RelMap
