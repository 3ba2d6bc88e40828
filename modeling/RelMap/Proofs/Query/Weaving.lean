import RelMap.Query.Statement
import RelMap.Proofs.Query.Given

/-!
# Pieces woven of clauses

A statement is written piece by piece, and its parameters are collected from the same pieces.
`Piece.Woven` says that some pieces are written as a weave of clauses and that their holes are the
values of these.  Weaves are put together as the pieces are: one behind the other, behind pieces
without marks, and separated in a list.
-/

namespace RelMap

variable {style : ParamStyle}

namespace Piece

/-- The words that a piece is written with, unless it is a hole. -/
def wording? : Piece → Option String
  | fixed s => some s
  | name v => some v.display
  | operator v => some v.display
  | number v => some v.display
  | listed v => v.textOf?
  | hole _ => none

theorem write_worded {p : Piece} {x : String} (hp : p.wording? = some x) (first : Nat)
    (ps : List Piece) : write style first (p :: ps) = (write style first ps).map (x ++ ·) := by
  cases p with
  | hole v => cases hp
  | listed v =>
    have hv : v.textOf? = some x := hp
    simp only [write, hv]
  | _ =>
    cases hp
    rfl

theorem write_hole_eq_ok {v : Value} {first : Nat} {ps : List Piece} {s : String}
    (h : write style first (hole v :: ps) = .ok s) :
    ∃ t, write style (first + 1) ps = .ok t ∧ s = style.markAt first ++ t := by
  simp only [write] at h
  obtain ⟨mark, hmark, h⟩ := Result.bind_eq_ok.mp h
  obtain ⟨t, ht, rfl⟩ := Result.map_eq_ok.mp h
  exact ⟨t, ht, by rw [ParamStyle.eq_markAt_of_mark hmark]⟩

theorem holes_append (ps qs : List Piece) : holes (ps ++ qs) = holes ps ++ holes qs :=
  List.filterMap_append

theorem holes_worded {p : Piece} {x : String} (hp : p.wording? = some x) (ps : List Piece) :
    holes (p :: ps) = holes ps := by
  cases p with
  | hole v => cases hp
  | _ => rfl

theorem write_worded_eq_ok {p : Piece} {x : String} (hp : p.wording? = some x) {first : Nat}
    {ps : List Piece} {s : String} (h : write style first (p :: ps) = .ok s) :
    ∃ t, write style first ps = .ok t ∧ s = x ++ t := by
  rw [write_worded hp] at h
  obtain ⟨t, ht, rfl⟩ := Result.map_eq_ok.mp h
  exact ⟨t, ht, rfl⟩

/-- Where marks cannot be written, pieces are written only if there is nothing to mark. -/
theorem holes_eq_nil (hstyle : ¬ style.IsKnown) {ps : List Piece}
    {first : Nat} {sql : String} (h : write style first ps = .ok sql) :
    holes ps = [] := by
  induction ps generalizing first sql with
  | nil => rfl
  | cons p ps ih =>
    cases hp : p.wording? with
    | some x =>
      obtain ⟨rest, hrest, -⟩ := write_worded_eq_ok hp h
      rw [holes_worded hp]
      exact ih hrest
    | none =>
      cases p with
      | hole v =>
        cases style with
        | other given => cases h
        | _ => exact (hstyle trivial).elim
      | listed v =>
        have hv : v.textOf? = none := hp
        simp only [write, hv] at h
        cases h
      | _ => cases hp

theorem map_append_bind (x : String) (r r' : Result String) :
    (r >>= fun a => r'.map (a ++ ·)).map (x ++ ·) =
      (r.map (x ++ ·) >>= fun a => r'.map (a ++ ·)) := by
  cases r with
  | error e => rfl
  | ok a =>
    cases r' with
    | error e => rfl
    | ok b => exact congrArg Except.ok String.append_assoc.symm

/-- Pieces are written as the first of them are, and then the rest. -/
theorem write_append (first : Nat) (ps qs : List Piece) :
    write style first (ps ++ qs) =
      (write style first ps >>= fun a =>
        (write style (first + (holes ps).length) qs).map (a ++ ·)) := by
  induction ps generalizing first with
  | nil =>
    change write style first qs = (write style first qs).map ("" ++ ·)
    cases write style first qs with
    | error e => rfl
    | ok b => exact congrArg Except.ok String.empty_append.symm
  | cons p ps ih =>
    cases hp : p.wording? with
    | some x =>
      rw [List.cons_append, write_worded hp, write_worded hp, ih, holes_worded hp,
        map_append_bind]
    | none =>
      cases p with
      | hole v =>
        have hlength : first + (holes (hole v :: ps)).length = first + 1 + (holes ps).length := by
          rw [Nat.add_assoc, Nat.add_comm 1]
          rfl
        simp only [List.cons_append, write, ih, hlength]
        cases style.mark (toString first) with
        | error e => rfl
        | ok mark => exact map_append_bind mark _ _
      | listed v =>
        have hv : v.textOf? = none := hp
        simp only [List.cons_append, write, hv]
        rfl
      | _ => cases hp

theorem write_append_eq_ok {first : Nat} {ps qs : List Piece} {s : String}
    (h : write style first (ps ++ qs) = .ok s) :
    ∃ a b, write style first ps = .ok a ∧ write style (first + (holes ps).length) qs = .ok b ∧
      s = a ++ b := by
  rw [write_append] at h
  obtain ⟨a, ha, h⟩ := Result.bind_eq_ok.mp h
  obtain ⟨b, hb, rfl⟩ := Result.map_eq_ok.mp h
  exact ⟨a, b, ha, hb, rfl⟩

/-- The pieces are written as a weave of the clauses, and their holes are the values of these. -/
structure Woven (style : ParamStyle) (clauses : List Clause) (ps : List Piece) : Prop where
  params : toParameters (clauses.flatMap Clause.values) = .ok (holes ps)
  text : ∀ first s, write style first ps = .ok s → Weave style first clauses s.toList

/-- What is written for the pieces does not go on a number. -/
def IsApart (style : ParamStyle) (ps : List Piece) : Prop :=
  ∀ first s, write style first ps = .ok s → NoDigit s.toList

/-- The piece has neither a hole nor the sign of a mark. -/
def IsQuiet (p : Piece) : Prop := ∃ x, p.wording? = some x ∧ SignFree x.toList

theorem woven_quiet {ps : List Piece} (h : ∀ p ∈ ps, p.IsQuiet) : Woven style [] ps := by
  induction ps with
  | nil =>
    refine ⟨List.mapM_nil, ?_⟩
    intro first s hs
    cases hs
    exact .glue (by decide)
  | cons p ps ih =>
    obtain ⟨hparams, htext⟩ := ih fun q hq => h q (List.mem_cons_of_mem p hq)
    obtain ⟨x, hx, hfree⟩ := h p List.mem_cons_self
    constructor
    · rw [holes_worded hx]
      exact hparams
    · intro first s hs
      obtain ⟨t, ht, rfl⟩ := write_worded_eq_ok hx hs
      rw [String.toList_append]
      exact (htext first t ht).prepend hfree

namespace Woven

variable {clauses clauses' : List Clause} {ps qs : List Piece}

theorem length_holes (h : Woven style clauses ps) :
    (holes ps).length = Clause.total clauses :=
  Result.length_of_mapM_eq_ok h.params

theorem append (h : Woven style clauses ps) (h' : Woven style clauses' qs)
    (hq : IsApart style qs) : Woven style (clauses ++ clauses') (ps ++ qs) := by
  constructor
  · rw [List.flatMap_append, holes_append]
    exact Result.mapM_append_eq_ok h.params h'.params
  · intro first s hs
    obtain ⟨a, b, ha, hb, rfl⟩ := write_append_eq_ok hs
    rw [String.toList_append]
    refine (h.text first a ha).append ?_ (hq _ b hb)
    rw [← h.length_holes]
    exact h'.text _ b hb

/-- Pieces without signs may come before a weave, whatever it begins with. -/
theorem prepend (hps : ∀ p ∈ ps, p.IsQuiet) (h : Woven style clauses qs) :
    Woven style clauses (ps ++ qs) := by
  have hquiet : Woven style [] ps := woven_quiet hps
  have hholes : holes ps = [] := List.length_eq_zero_iff.mp hquiet.length_holes
  constructor
  · rw [holes_append, hholes]
    exact h.params
  · intro first s hs
    obtain ⟨a, b, ha, hb, rfl⟩ := write_append_eq_ok hs
    rw [hholes] at hb
    rw [String.toList_append]
    cases hquiet.text first a ha with
    | glue hfree => exact (h.text first b hb).prepend hfree

end Woven

/-! ## What begins apart from a number -/

theorem isApart_nil : IsApart style [] := by
  intro first s hs
  cases hs
  decide

theorem isApart_fixed {x : String} (hx : NoDigit x.toList) (hne : x.toList ≠ [])
    (ps : List Piece) : IsApart style (fixed x :: ps) := by
  intro first s hs
  obtain ⟨t, -, rfl⟩ := Result.map_eq_ok.mp hs
  rw [String.toList_append]
  exact hx.append_of_ne_nil hne

theorem IsApart.append {ps qs : List Piece} (h : IsApart style ps) (h' : IsApart style qs) :
    IsApart style (ps ++ qs) := by
  intro first s hs
  obtain ⟨a, b, ha, hb, rfl⟩ := write_append_eq_ok hs
  rw [String.toList_append]
  exact (h first a ha).append (h' _ b hb)

/-! ## Lists -/

/-- What is made of several things one by one, and separated, is woven of their clauses. -/
theorem woven_separated {α β : Type} {f : α → Result β} {clause : α → Clause}
    {group : β → List Piece} {sep : String} (hfree : SignFree sep.toList)
    (happart : NoDigit sep.toList) (hne : sep.toList ≠ []) {xs : List α} {ys : List β}
    (h : xs.mapM f = .ok ys)
    (hgroup : ∀ x y, f x = .ok y → Woven style [clause x] (group y)) :
    Woven style (xs.map clause) (separated sep (ys.map group)) := by
  induction xs generalizing ys with
  | nil =>
    cases h
    exact woven_quiet nofun
  | cons x xs ih =>
    obtain ⟨y, zs, hy, hzs, rfl⟩ := Result.mapM_cons_eq_ok.mp h
    have hrest := ih hzs
    cases zs with
    | nil =>
      obtain rfl := List.length_eq_zero_iff.mp (Result.length_of_mapM_eq_ok hzs).symm
      exact hgroup x y hy
    | cons z zs =>
      have hsep : ∀ p ∈ [fixed sep], p.IsQuiet := by
        intro p hp
        cases List.mem_singleton.mp hp
        exact ⟨sep, rfl, hfree⟩
      exact (hgroup x y hy).append (hrest.prepend hsep) (isApart_fixed happart hne _)

/-- Names in a list are written by their characters. -/
theorem write_nameList (first : Nat) (names : List Name) :
    write style first (nameList (names.map Name.toValue)) =
      .ok (", ".intercalate (names.map Name.text)) := by
  induction names with
  | nil => rfl
  | cons n names ih =>
    have hn : (listed n.toValue).wording? = some n.text := n.textOf?_toValue
    have hcomma : (fixed ", ").wording? = some ", " := rfl
    cases names with
    | nil =>
      change write style first [listed n.toValue] = _
      rw [write_worded hn]
      exact congrArg Except.ok String.append_empty
    | cons n' names =>
      change write style first (listed n.toValue :: fixed ", " ::
        nameList ((n' :: names).map Name.toValue)) = _
      rw [write_worded hn, write_worded hcomma, ih]
      simp only [List.map_cons, String.intercalate_cons_cons]
      exact congrArg Except.ok String.append_assoc.symm

theorem write_holeList {vs : List Value} {first : Nat} {s : String}
    (h : write style first (holeList vs) = .ok s) :
    s = ", ".intercalate (style.marks first vs.length) := by
  induction vs generalizing first s with
  | nil =>
    cases h
    rfl
  | cons v vs ih =>
    rw [List.length_cons, ParamStyle.marks_succ]
    cases vs with
    | nil =>
      obtain ⟨t, ht, rfl⟩ := write_hole_eq_ok h
      cases ht
      rw [List.length_nil, ParamStyle.marks_zero, String.intercalate_singleton,
        String.append_empty]
    | cons w vs =>
      have hcomma : (fixed ", ").wording? = some ", " := rfl
      obtain ⟨t, ht, rfl⟩ := write_hole_eq_ok h
      obtain ⟨u, hu, rfl⟩ := write_worded_eq_ok hcomma ht
      rw [ih hu, List.length_cons, ParamStyle.marks_succ, String.intercalate_cons_cons,
        String.append_assoc]

theorem holes_holeList (vs : List Value) : holes (holeList vs) = vs := by
  induction vs with
  | nil => rfl
  | cons v vs ih =>
    cases vs with
    | nil => rfl
    | cons w vs => exact congrArg (v :: ·) ih

theorem holes_nameList (vs : List Value) : holes (nameList vs) = [] := by
  induction vs with
  | nil => rfl
  | cons v vs ih =>
    cases vs with
    | nil => rfl
    | cons w vs => exact ih

/-! ## Clauses -/

theorem cell_eq_ok {e : String × Value} {c : Cell} (h : Given.cell e = .ok c) :
    c.1 = .text e.1 ∧ SignFree e.1.toList ∧ e.2.toParameter = .ok c.2 := by
  obtain ⟨n, hn, h⟩ := Result.bind_eq_ok.mp h
  obtain ⟨p, hp, h⟩ := Result.bind_eq_ok.mp h
  cases h
  obtain ⟨rfl, s, hs, hid⟩ := Query.columnName_eq_ok ⟨e.1, rfl⟩ hn
  cases hs
  exact ⟨rfl, .of_isIdentifier hid, hp⟩

theorem cells_eq_ok {row : List (String × Value)} {cs : List Cell}
    (h : row.mapM Given.cell = .ok cs) :
    cs.map Prod.fst = (row.map Prod.fst).map .text ∧ (∀ e ∈ row, SignFree e.1.toList) ∧
      toParameters (row.map Prod.snd) = .ok (cs.map Prod.snd) := by
  induction row generalizing cs with
  | nil =>
    cases h
    exact ⟨rfl, nofun, List.mapM_nil⟩
  | cons e row ih =>
    obtain ⟨c, cs, hc, hcs, rfl⟩ := Result.mapM_cons_eq_ok.mp h
    obtain ⟨hname, hfree, hparam⟩ := cell_eq_ok hc
    obtain ⟨hnames, hfrees, hparams⟩ := ih hcs
    refine ⟨?_, ?_, Result.mapM_cons_eq_ok.mpr ⟨c.2, cs.map Prod.snd, hparam, hparams, rfl⟩⟩
    · simp only [List.map_cons, hname, hnames]
    · intro e' he'
      rcases List.mem_cons.mp he' with rfl | he'
      · exact hfree
      · exact hfrees e' he'

/-- The pieces of one clause: they are written as the clause, and their holes are its values. -/
theorem woven_single {c : Clause} {ps : List Piece} (hc : c.IsPlain)
    (hparams : toParameters c.values = .ok (holes ps))
    (htext : ∀ first s, write style first ps = .ok s → s = c.text style first) :
    Woven style [c] ps := by
  constructor
  · rw [List.flatMap_singleton]
    exact hparams
  · intro first s hs
    rw [htext first s hs]
    exact .single hc

theorem woven_row {row : List (String × Value)} {cs : List Cell}
    (h : row.mapM Given.cell = .ok cs) :
    Woven style [.row row]
      (nameList (cs.map Prod.fst) ++ ([.fixed ") VALUES ("] ++ holeList (cs.map Prod.snd))) := by
  obtain ⟨hnames, hfree, hparams⟩ := cells_eq_ok h
  refine woven_single hfree ?_ fun first s hs => ?_
  · rw [holes_append, holes_append, holes_nameList, holes_holeList]
    exact hparams
  · obtain ⟨a, y, ha, hy, rfl⟩ := write_append_eq_ok hs
    obtain ⟨x, b, hx, hb, rfl⟩ := write_append_eq_ok hy
    rw [holes_nameList] at hb
    have hplain : (row.map Prod.fst).map .text =
        (row.map fun e => Name.plain e.1).map Name.toValue := by
      rw [List.map_map, List.map_map]
      rfl
    rw [hnames, hplain, write_nameList, List.map_map] at ha
    have hlength : (cs.map Prod.snd).length = row.length := by
      rw [List.length_map, Result.length_of_mapM_eq_ok h]
    obtain rfl := write_holeList hb
    cases ha
    cases hx
    rw [hlength, ← String.append_assoc]
    rfl

theorem woven_assignment {e : String × Value} {c : Cell} (h : Given.cell e = .ok c) :
    Woven style [.assignment e.1 e.2] [.name c.1, .fixed " = ", .hole c.2] := by
  obtain ⟨hname, hfree, hparam⟩ := cell_eq_ok h
  refine woven_single hfree ?_ fun first s hs => ?_
  · exact Result.mapM_cons_eq_ok.mpr ⟨c.2, [], hparam, List.mapM_nil, rfl⟩
  · have hwording : (name c.1).wording? = some e.1 := by rw [hname]; rfl
    have hequals : (fixed " = ").wording? = some " = " := rfl
    obtain ⟨t, ht, rfl⟩ := write_worded_eq_ok hwording hs
    obtain ⟨u, hu, rfl⟩ := write_worded_eq_ok hequals ht
    obtain ⟨v, hv, rfl⟩ := write_hole_eq_ok hu
    cases hv
    rw [String.append_empty, ← String.append_assoc]
    rfl

/-! ### Tests -/

theorem signFree_of_operator {op : String} (h : operators.contains op = true) :
    SignFree op.toList := by
  have hall : ∀ o ∈ operators, SignFree o.toList := by decide
  exact hall op (List.contains_iff_mem.mp h)

/-- A column and an operator are written before anything that a test compares with. -/
theorem write_compared {column op : String} {first : Nat} {ps : List Piece} {s : String}
    (h : write style first (.name (.text column) :: .fixed " " :: .operator (.text op) :: ps) =
      .ok s) :
    ∃ t, write style first ps = .ok t ∧ s = column ++ " " ++ op ++ t := by
  have hcolumn : (name (.text column)).wording? = some column := rfl
  have hblank : (fixed " ").wording? = some " " := rfl
  have hop : (operator (.text op)).wording? = some op := rfl
  obtain ⟨t, ht, rfl⟩ := write_worded_eq_ok hcolumn h
  obtain ⟨u, hu, rfl⟩ := write_worded_eq_ok hblank ht
  obtain ⟨v, hv, rfl⟩ := write_worded_eq_ok hop hu
  exact ⟨v, hv, by simp only [String.append_assoc]⟩

section Tests

variable {column op : String} {given : Value} {c : Condition}

theorem woven_unary (hplain : (Clause.test column op given).IsPlain)
    (hop : unaryOperators.contains op = true) :
    Woven style [.test column op given]
      (Condition.pieces { column := .text column, operator := .text op }) := by
  have hunary : Condition.isUnary { column := .text column, operator := .text op } = true := hop
  rw [Condition.pieces, if_pos hunary]
  refine woven_single hplain ?_ fun first s hs => ?_
  · rw [Clause.values, if_pos hop]
    exact List.mapM_nil
  · obtain ⟨t, ht, rfl⟩ := write_compared hs
    cases ht
    rw [Clause.text, if_pos hop, String.append_empty]

theorem woven_sequence {ps : List Value} (hplain : (Clause.test column op given).IsPlain)
    (hunary : ¬ unaryOperators.contains op = true) (hop : sequenceOperators.contains op = true)
    (hps : toParameters (given.items?.getD []) = .ok ps) :
    Woven style [.test column op given]
      (Condition.pieces { column := .text column, operator := .text op, values := some ps }) := by
  have hnot :
      ¬ Condition.isUnary { column := .text column, operator := .text op, values := some ps } =
        true := hunary
  rw [Condition.pieces, if_neg hnot]
  have hvalues : (Clause.test column op given).values = given.items?.getD [] := by
    rw [Clause.values, if_neg hunary, if_pos hop]
  have hlength := Result.length_of_mapM_eq_ok hps
  cases ps with
  | nil =>
    have hempty : given.items?.getD [] = [] := List.length_eq_zero_iff.mp hlength.symm
    refine woven_single hplain ?_ fun first s hs => ?_
    · rw [hvalues, hempty]
      exact List.mapM_nil
    · obtain ⟨t, ht, rfl⟩ := write_worded_eq_ok rfl hs
      cases ht
      have hin : Condition.hasOperator
          { column := .text column, operator := .text op, values := some [] } ["IN"] = true ↔
            op = "IN" := by
        simp [Condition.hasOperator, Value.textOf?]
      simp only [Clause.text, if_neg hunary, if_pos hop, hempty, String.append_empty, hin]
  | cons p ps =>
    refine woven_single hplain ?_ fun first s hs => ?_
    · rw [hvalues, hps]
      have hclose : holes [fixed ")"] = [] := rfl
      simp only [holes_append, holes_holeList, hclose, List.append_nil]
      rfl
    · obtain ⟨a, b, ha, hb, rfl⟩ := write_append_eq_ok hs
      obtain ⟨l, m, hl, hm, rfl⟩ := write_append_eq_ok ha
      obtain ⟨t, ht, rfl⟩ := write_compared hl
      obtain rfl := write_holeList hm
      cases ht
      cases hb
      cases hitems : given.items?.getD [] with
      | nil =>
        rw [hitems] at hlength
        cases hlength
      | cons w ws =>
        rw [hitems] at hlength
        simp only [Clause.text, if_neg hunary, if_pos hop, hitems, hlength]
        rfl

theorem woven_binary {p : Value} (hplain : (Clause.test column op given).IsPlain)
    (hunary : ¬ unaryOperators.contains op = true)
    (hop : ¬ sequenceOperators.contains op = true) (hp : given.toParameter = .ok p) :
    Woven style [.test column op given]
      (Condition.pieces { column := .text column, operator := .text op, value := p }) := by
  have hnot : ¬ Condition.isUnary { column := .text column, operator := .text op, value := p } =
      true := hunary
  rw [Condition.pieces, if_neg hnot]
  refine woven_single hplain ?_ fun first s hs => ?_
  · rw [Clause.values, if_neg hunary, if_neg hop]
    exact Result.mapM_cons_eq_ok.mpr ⟨p, [], hp, List.mapM_nil, rfl⟩
  · have hblank : (fixed " ").wording? = some " " := rfl
    obtain ⟨t, ht, rfl⟩ := write_compared hs
    obtain ⟨u, hu, rfl⟩ := write_worded_eq_ok hblank ht
    obtain ⟨v, hv, rfl⟩ := write_hole_eq_ok hu
    cases hv
    rw [Clause.text, if_neg hunary, if_neg hop, String.append_empty, ← String.append_assoc]

/-- The pieces of a condition are those of the test that it was made of. -/
theorem woven_test {t : Clause} (h : t.condition = .ok c) : Woven style [t] c.pieces := by
  cases t with
  | row cells => cases h
  | assignment column given => cases h
  | test column op given =>
    obtain ⟨n, hn, h⟩ := Result.bind_eq_ok.mp h
    split at h
    · next hop =>
      have hcolumn : SignFree column.toList := by
        obtain ⟨hname, hid⟩ := checkName_eq_ok.mp hn
        cases hname
        exact .of_isIdentifier hid
      have hplain : (Clause.test column op given).IsPlain :=
        ⟨hcolumn, signFree_of_operator hop⟩
      unfold Condition.ofOperator at h
      split at h
      · next hunary =>
        split at h
        · cases h
          exact woven_unary hplain hunary
        · cases h
      · next hunary =>
        split at h
        · next hsequence =>
          split at h
          · cases h
          · obtain ⟨ps, hps, h⟩ := Result.bind_eq_ok.mp h
            cases h
            exact woven_sequence hplain hunary hsequence hps
        · next hsequence =>
          split at h
          · cases h
          · obtain ⟨p, hp, h⟩ := Result.bind_eq_ok.mp h
            cases h
            exact woven_binary hplain hunary hsequence hp
    · cases h

end Tests

end Piece

end RelMap
