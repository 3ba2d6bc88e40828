import RelMap.Proofs.Query.Regular
import RelMap.Proofs.Query.Alignment

/-!
# What statements consist of

A statement of a regular caller consists of phrases of the library, checked names, operators, counts
and marks, so its text has neither quotes nor semicolons nor comments (`Query.build_safe`).  This
needs that column and operator are checked also of a condition that the caller put together itself:
no call of the builder checks these (`Query.build_unsafe_condition`).
-/

namespace RelMap

/-! ## Calm texts -/

/-- The characters of names, counts, operators, marks and phrases. -/
def isCalmChar (c : Char) : Bool := c.isAlphanum || "_. ,()=!<>*?%$".toList.contains c

/-- What ends a literal or a statement, begins a comment or ends a line. -/
def unsafeChars : List Char := "'\"`;\\/#\n\r".toList

/-- A text of calm characters, where a dash comes before a one only. -/
inductive IsCalm : List Char → Prop
  | nil : IsCalm []
  | cons {c : Char} {cs : List Char} : isCalmChar c = true → IsCalm cs → IsCalm (c :: cs)
  | minusOne {cs : List Char} : IsCalm cs → IsCalm ('-' :: '1' :: cs)

namespace IsCalm

variable {cs cs' : List Char}

theorem of_forall (h : ∀ c ∈ cs, isCalmChar c = true) : IsCalm cs := by
  induction cs with
  | nil => exact .nil
  | cons c cs ih =>
    rw [List.forall_mem_cons] at h
    exact .cons h.1 (ih h.2)

theorem of_all (h : cs.all isCalmChar = true) : IsCalm cs := of_forall (List.all_eq_true.mp h)

theorem append (h : IsCalm cs) (h' : IsCalm cs') : IsCalm (cs ++ cs') := by
  induction h with
  | nil => exact h'
  | cons hc _ ih => exact .cons hc ih
  | minusOne _ ih => exact .minusOne ih

theorem tail {c : Char} (h : IsCalm (c :: cs)) : IsCalm cs := by
  cases h with
  | cons _ h => exact h
  | minusOne h => exact .cons (by decide) h

theorem of_append (h : IsCalm (cs ++ cs')) : IsCalm cs' := by
  induction cs with
  | nil => exact h
  | cons c cs ih => exact ih h.tail

theorem not_mem_unsafeChars (h : IsCalm cs) : ∀ c ∈ cs, c ∉ unsafeChars := by
  have hwild : unsafeChars.all (fun c => !isCalmChar c) = true := by decide
  induction h with
  | nil => nofun
  | cons hc _ ih =>
    refine List.forall_mem_cons.mpr ⟨?_, ih⟩
    intro hmem
    simpa [hc] using List.all_eq_true.mp hwild _ hmem
  | minusOne _ ih =>
    simp only [List.forall_mem_cons]
    exact ⟨by decide, by decide, ih⟩

/-- A comment may begin with two dashes, too. -/
theorem not_dashes (h : IsCalm cs) : ¬ "--".toList <:+: cs := by
  rintro ⟨before, behind, rfl⟩
  rw [List.append_assoc] at h
  have hdashes : IsCalm ('-' :: '-' :: behind) := h.of_append
  cases hdashes with
  | cons hc _ => exact absurd hc (by decide)

theorem of_isDigit (h : ∀ c ∈ cs, c.isDigit = true) : IsCalm cs := by
  apply of_forall
  intro c hc
  simp [isCalmChar, Char.isAlphanum, h c hc]

theorem of_isIdentifier (h : Identifier.isIdentifier cs = true) : IsCalm cs := by
  apply of_forall
  intro c hc
  have hname := Identifier.isNameChar_of_isIdentifier h c hc
  simp only [Identifier.isNameChar, Identifier.isTail, Bool.or_eq_true, decide_eq_true_eq] at hname
  rcases hname with (hname | rfl) | rfl
  · simp [isCalmChar, hname]
  · decide
  · decide

theorem of_markAt (style : ParamStyle) (k : Nat) : IsCalm (style.markAt k).toList := by
  apply of_forall
  intro c hc
  rcases style.mem_markAt k c hc with hdigit | hsign
  · simp [isCalmChar, Char.isAlphanum, hdigit]
  · simp only [List.mem_cons, List.not_mem_nil, or_false] at hsign
    rcases hsign with rfl | rfl | rfl | rfl <;> decide

end IsCalm

/-! ## Safe pieces -/

/-- What the library itself writes. -/
def phrases : List String :=
  ["SELECT ", "SELECT DISTINCT ", "INSERT INTO ", "UPDATE ", "DELETE FROM ", " FROM ", " SET ",
    " = ", " (", ") VALUES (", ")", " DEFAULT VALUES", " WHERE ", " AND ", " ", "1=0", "1=1",
    " ORDER BY ", " ASC", " DESC", ", ", " LIMIT ", " LIMIT -1", " OFFSET ", " RETURNING "]

namespace Piece

variable {style : ParamStyle}

/-- Phrases of the library, checked names, operators, counts, and holes for marks. -/
def IsSafe : Piece → Prop
  | fixed s => s ∈ phrases
  | name v => v.IsIdentifier
  | listed v => v = Query.allColumns ∨ v.IsIdentifier
  | operator v => ∃ op ∈ operators, v = .text op
  | number v => v.IsCount
  | hole _ => True

theorem isCalm_phrase {s : String} (h : s ∈ phrases) : IsCalm s.toList := by
  by_cases hfiller : s = " LIMIT -1"
  · subst hfiller
    have hwords : IsCalm " LIMIT ".toList := .of_all (by decide)
    exact hwords.append (.minusOne .nil)
  · have hcalm : ∀ s ∈ phrases, s ≠ " LIMIT -1" → s.toList.all isCalmChar = true := by
      decide +kernel
    exact .of_all (hcalm s h hfiller)

theorem isCalm_operator {op : String} (h : op ∈ operators) : IsCalm op.toList := by
  have hcalm : ∀ op ∈ operators, op.toList.all isCalmChar = true := by decide +kernel
  exact .of_all (hcalm op h)

/-- A safe piece that is no hole is written in calm words. -/
theorem IsSafe.isCalm {p : Piece} (hp : p.IsSafe) {x : String} (hx : p.wording? = some x) :
    IsCalm x.toList := by
  cases p with
  | fixed s =>
    cases hx
    exact isCalm_phrase hp
  | name v =>
    obtain ⟨s, rfl, hs⟩ := hp
    cases hx
    exact .of_isIdentifier hs
  | listed v =>
    rcases hp with rfl | ⟨s, rfl, hs⟩
    · cases hx
      exact .of_all rfl
    · cases hx
      exact .of_isIdentifier hs
  | operator v =>
    obtain ⟨op, hop, rfl⟩ := hp
    cases hx
    exact isCalm_operator hop
  | number v =>
    obtain ⟨n, rfl⟩ := hp
    cases hx
    exact .of_isDigit (isDigit_toString n)
  | hole v => cases hx

theorem isCalm_write {ps : List Piece} (hps : ∀ p ∈ ps, p.IsSafe) {first : Nat} {s : String}
    (h : write style first ps = .ok s) : IsCalm s.toList := by
  induction ps generalizing first s with
  | nil =>
    cases h
    exact .nil
  | cons p ps ih =>
    rw [List.forall_mem_cons] at hps
    cases hx : p.wording? with
    | some x =>
      obtain ⟨t, ht, rfl⟩ := write_worded_eq_ok hx h
      rw [String.toList_append]
      exact (hps.1.isCalm hx).append (ih hps.2 ht)
    | none =>
      cases p with
      | hole v =>
        obtain ⟨t, ht, rfl⟩ := write_hole_eq_ok h
        rw [String.toList_append]
        exact (IsCalm.of_markAt style first).append (ih hps.2 ht)
      | listed v =>
        have hv : v.textOf? = none := hx
        simp only [write, hv] at h
        cases h
      | _ => cases hx

theorem forall_mem_separated {P : Piece → Prop} {sep : String} (hsep : P (fixed sep))
    {groups : List (List Piece)} (h : ∀ group ∈ groups, ∀ p ∈ group, P p) :
    ∀ p ∈ separated sep groups, P p := by
  induction groups with
  | nil => nofun
  | cons group groups ih =>
    rw [List.forall_mem_cons] at h
    cases groups with
    | nil => exact h.1
    | cons other groups =>
      exact List.forall_mem_append.mpr ⟨h.1, List.forall_mem_cons.mpr ⟨hsep, ih h.2⟩⟩

theorem safe_fixed {s : String} (h : s ∈ phrases) : (fixed s).IsSafe := h

theorem safe_nameList {vs : List Value} (h : ∀ v ∈ vs, v = Query.allColumns ∨ v.IsIdentifier) :
    ∀ p ∈ nameList vs, p.IsSafe := by
  apply forall_mem_separated (safe_fixed (by decide))
  simpa [IsSafe] using h

theorem safe_holeList (vs : List Value) : ∀ p ∈ holeList vs, p.IsSafe := by
  apply forall_mem_separated (safe_fixed (by decide))
  simp [IsSafe]

end Piece

open Piece

theorem Condition.IsSafe.pieces {c : Condition} (hc : c.IsSafe) : ∀ p ∈ c.pieces, p.IsSafe := by
  have hname : (Piece.name c.column).IsSafe := hc.1
  have hoperator : (Piece.operator c.operator).IsSafe := hc.2
  have hspace : (fixed " ").IsSafe := safe_fixed (by decide)
  unfold Condition.pieces
  split
  · simp [hname, hspace, hoperator]
  · split
    · rw [List.forall_mem_singleton]
      split <;> exact safe_fixed (by decide)
    · next vs _ _ =>
      have hopen : (fixed " (").IsSafe := safe_fixed (by decide)
      have hclose : (fixed ")").IsSafe := safe_fixed (by decide)
      refine List.forall_mem_append.mpr ⟨List.forall_mem_append.mpr ⟨?_, safe_holeList vs⟩, ?_⟩
      · simp [hname, hspace, hoperator, hopen]
      · simp [hclose]
    · have hhole : (hole c.value).IsSafe := trivial
      simp [hname, hspace, hoperator, hhole]

namespace Query

variable {q : Query} {d : Dialect} {catalog : Catalog} {k : Kind}

/-- The names, counts and conditions of the query are safe to write. -/
abbrev IsSafe (q : Query) : Prop :=
  q.Regular Value.IsIdentifier Condition.IsSafe Value.IsCount

theorem IsSafe.wherePieces (hq : q.IsSafe) : ∀ p ∈ q.wherePieces, p.IsSafe := by
  unfold Query.wherePieces
  split
  · nofun
  · refine List.forall_mem_cons.mpr ⟨safe_fixed (by decide), ?_⟩
    apply forall_mem_separated (safe_fixed (by decide))
    intro group hgroup
    obtain ⟨c, hc, rfl⟩ := List.mem_map.mp hgroup
    exact (hq.conditions c hc).pieces

theorem IsSafe.orderPieces (hq : q.IsSafe) : ∀ p ∈ q.orderPieces, p.IsSafe := by
  unfold Query.orderPieces
  split
  · nofun
  · refine List.forall_mem_cons.mpr ⟨safe_fixed (by decide), ?_⟩
    apply forall_mem_separated (safe_fixed (by decide))
    intro group hgroup
    obtain ⟨o, ho, rfl⟩ := List.mem_map.mp hgroup
    have hname : (name o.column).IsSafe := hq.ordering o ho
    have hdirection : (fixed (if o.descending.truthy then " DESC" else " ASC")).IsSafe := by
      split <;> exact safe_fixed (by decide)
    simp [hname, hdirection]

theorem isSafe_number {v : Value} (hv : v = .null ∨ v.IsCount) (hset : ¬ v.isNull = true) :
    (number v).IsSafe := by
  rcases hv with rfl | hv
  · exact (hset rfl).elim
  · exact hv

theorem IsSafe.limitPieces (hq : q.IsSafe) : ∀ p ∈ q.limitPieces, p.IsSafe := by
  unfold Query.limitPieces
  split
  · nofun
  · next hset =>
    simp [isSafe_number hq.limit hset, safe_fixed (s := " LIMIT ") (by decide)]

theorem IsSafe.offsetPieces (hq : q.IsSafe) (hd : d ∈ Dialect.builtin) :
    ∀ p ∈ q.offsetPieces d, p.IsSafe := by
  have hfiller (h : d.offsetFiller.truthy = true) :
      (fixed (" " ++ d.offsetFiller.display)).IsSafe := by
    rw [d.display_offsetFiller hd h]
    exact safe_fixed (by decide)
  unfold Query.offsetPieces
  split
  · nofun
  · next hset =>
    refine List.forall_mem_append.mpr ⟨?_, ?_⟩
    · split
      · next hlone => simp [hfiller (Bool.and_eq_true_iff.mp hlone).2]
      · nofun
    · simp [isSafe_number hq.offset hset, safe_fixed (s := " OFFSET ") (by decide)]

theorem IsSafe.returningPieces (hq : q.IsSafe) : ∀ p ∈ q.returningPieces, p.IsSafe := by
  unfold Query.returningPieces
  split
  · nofun
  · exact List.forall_mem_cons.mpr
      ⟨safe_fixed (by decide), safe_nameList fun v hv => .inr (hq.returning v hv)⟩

theorem IsSafe.insertPieces (hq : q.IsSafe) (htable : q.tablePiece.IsSafe) :
    ∀ p ∈ q.insertPieces, p.IsSafe := by
  have hinto : (fixed "INSERT INTO ").IsSafe := safe_fixed (by decide)
  unfold Query.insertPieces
  split
  · simp [hinto, htable, safe_fixed (s := " DEFAULT VALUES") (by decide)]
  · have hnames : ∀ p ∈ nameList (q.values.map Prod.fst), p.IsSafe := by
      apply safe_nameList
      intro v hv
      obtain ⟨c, hc, rfl⟩ := List.mem_map.mp hv
      exact .inr (hq.values c hc)
    have hopen : (fixed " (").IsSafe := safe_fixed (by decide)
    have hvalues : (fixed ") VALUES (").IsSafe := safe_fixed (by decide)
    have hclose : (fixed ")").IsSafe := safe_fixed (by decide)
    simp only [List.forall_mem_append, List.forall_mem_singleton]
    exact ⟨⟨⟨⟨by simp [hinto, htable, hopen], hnames⟩, hvalues⟩, safe_holeList _⟩, hclose⟩

theorem IsSafe.updatePieces (hq : q.IsSafe) (htable : q.tablePiece.IsSafe) :
    ∀ p ∈ q.updatePieces, p.IsSafe := by
  have hupdate : (fixed "UPDATE ").IsSafe := safe_fixed (by decide)
  have hset : (fixed " SET ").IsSafe := safe_fixed (by decide)
  have hequals : (fixed " = ").IsSafe := safe_fixed (by decide)
  unfold Query.updatePieces
  simp only [List.forall_mem_append]
  refine ⟨⟨by simp [hupdate, htable, hset], ?_⟩, hq.wherePieces⟩
  apply forall_mem_separated (safe_fixed (by decide))
  intro group hgroup
  obtain ⟨a, ha, rfl⟩ := List.mem_map.mp hgroup
  have hname : (name a.1).IsSafe := hq.assignments a ha
  have hhole : (hole a.2).IsSafe := trivial
  simp [hname, hequals, hhole]

theorem IsSafe.selectPieces (hq : q.IsSafe) (htable : q.tablePiece.IsSafe)
    (hd : d ∈ Dialect.builtin) : ∀ p ∈ q.selectPieces d, p.IsSafe := by
  have hselect : (fixed (if q.distinct.truthy then "SELECT DISTINCT " else "SELECT ")).IsSafe := by
    split <;> exact safe_fixed (by decide)
  have hfrom : (fixed " FROM ").IsSafe := safe_fixed (by decide)
  unfold Query.selectPieces
  simp only [List.forall_mem_cons, List.forall_mem_append]
  exact ⟨hselect, ⟨⟨⟨⟨⟨safe_nameList hq.columns, by simp [hfrom, htable]⟩, hq.wherePieces⟩,
    hq.orderPieces⟩, hq.limitPieces⟩, hq.offsetPieces hd⟩⟩

theorem IsSafe.pieces (hq : q.IsSafe) (htable : q.table.isNull = false)
    (hd : d ∈ Dialect.builtin) : ∀ p ∈ q.pieces k d, p.IsSafe := by
  have hname : q.tablePiece.IsSafe := by
    rcases hq.table with hnull | hname
    · rw [htable] at hnull
      cases hnull
    · exact hname
  unfold Query.pieces
  refine List.forall_mem_append.mpr ⟨?_, hq.returningPieces⟩
  cases k with
  | select => exact hq.selectPieces hname hd
  | insert => exact hq.insertPieces hname
  | update => exact hq.updatePieces hname
  | delete =>
    have hdelete : (fixed "DELETE FROM ").IsSafe := safe_fixed (by decide)
    exact List.forall_mem_append.mpr ⟨by simp [hdelete, hname], hq.wherePieces⟩

/-- Statements of a regular caller with plain counts, whose own conditions are checked, consist of
safe pieces. -/
theorem build_safe {calls : List BuilderCall} {st : Statement} (hd : d ∈ Dialect.builtin)
    (hcalls : ∀ c ∈ calls,
      c.IsRegular Value.IsIdentifier Condition.IsSafe Value.IsCount catalog)
    (hq : runCalls catalog {} calls = .ok q) (hst : q.build catalog d = .ok st) :
    (∃ ps, Piece.write d.style 1 ps = .ok st.sql ∧ Piece.holes ps = st.params ∧
        ∀ p ∈ ps, p.IsSafe) ∧
      (∀ c ∈ st.sql.toList, c ∉ unsafeChars) ∧ ¬ "--".toList <:+: st.sql.toList := by
  have hsafe : q.IsSafe :=
    regular_runCalls (fun _ h => h) (fun _ h => h) (fun _ h => h.isSafe) hcalls hq
  obtain ⟨k, hk, hst⟩ := Result.bind_eq_ok.mp hst
  obtain ⟨sql, hsql, hst⟩ := Result.bind_eq_ok.mp hst
  cases hst
  have hpieces := hsafe.pieces (k := k) (validate_eq_ok hk).1 hd
  have hcalm : IsCalm sql.toList := isCalm_write hpieces hsql
  exact ⟨⟨q.pieces k d, hsql, rfl, hpieces⟩, hcalm.not_mem_unsafeChars, hcalm.not_dashes⟩

/-- The calls of a search for one row by a condition that is put together from parts. -/
def searchCalls (column : String) : List BuilderCall :=
  [.select (.text "*") (.bool false), .fromTable (.argument (.value (.text "users"))),
    .whereParts [("col", .text column), ("op", .text "="), ("value", .text "x'; --")] .null,
    .orderBy (.text "id") (.bool true), .offset (.int 1)]

theorem build_safe_search : ∃ q st, runCalls .empty {} (searchCalls "name") = .ok q ∧
    q.build .empty .sqlite = .ok st ∧
    (∀ c ∈ st.sql.toList, c ∉ unsafeChars) ∧ ¬ "--".toList <:+: st.sql.toList := by
  have hbuilt : (runCalls .empty {} (searchCalls "name") >>= fun q =>
      q.build .empty .sqlite).isOk = true := by
    decide +kernel
  obtain ⟨st, hst⟩ := Result.exists_eq_ok hbuilt
  obtain ⟨q, hq, hst⟩ := Result.bind_eq_ok.mp hst
  have hcalls : ∀ c ∈ searchCalls "name",
      c.IsRegular Value.IsIdentifier Condition.IsSafe Value.IsCount .empty := by
    simp only [searchCalls, List.forall_mem_cons]
    refine ⟨nofun, ⟨_, rfl⟩, ?_, ⟨_, rfl⟩, ?_, List.forall_mem_nil _⟩
    · intro c hc
      cases hc
      exact ⟨⟨"name", rfl, by decide +kernel⟩, "=", by decide, rfl⟩
    · exact fun v hv => ⟨1, (exists_of_count hv).1⟩
  exact ⟨q, st, hq, hst, (build_safe (d := .sqlite) (by simp [Dialect.builtin]) hcalls hq hst).2⟩

/-- A condition that is put together from parts brings its column into the statement as it is. -/
theorem build_unsafe_condition : ∃ q st,
    runCalls .empty {} (searchCalls "id = id; DROP TABLE users --") = .ok q ∧
    q.build .empty .sqlite = .ok st ∧
    st.sql = "SELECT * FROM users WHERE id = id; DROP TABLE users -- = ? " ++
      "ORDER BY id DESC LIMIT -1 OFFSET 1" ∧
    ';' ∈ st.sql.toList ∧ "--".toList <:+: st.sql.toList := by
  have hbuilt : (runCalls .empty {} (searchCalls "id = id; DROP TABLE users --") >>= fun q =>
      q.build .empty .sqlite).isOk = true := by
    decide +kernel
  obtain ⟨st, hst⟩ := Result.exists_eq_ok hbuilt
  have htext : (runCalls .empty {} (searchCalls "id = id; DROP TABLE users --") >>= fun q =>
      q.build .empty .sqlite).toOption.map Statement.sql =
        some ("SELECT * FROM users WHERE id = id; DROP TABLE users -- = ? " ++
          "ORDER BY id DESC LIMIT -1 OFFSET 1") := by
    decide +kernel
  rw [hst] at htext
  have hsql := Option.some.inj htext
  obtain ⟨q, hq, hst⟩ := Result.bind_eq_ok.mp hst
  refine ⟨q, st, hq, hst, hsql, ?_, ?_⟩
  · rw [hsql]
    decide +kernel
  · rw [hsql]
    decide +kernel

end Query

end RelMap
