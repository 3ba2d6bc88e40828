import Mathlib.Data.List.Forall2
import RelMap.Proofs.Text.Spelling
import RelMap.Proofs.Query.Admission

/-!
# Shapes of conditions

A condition compares its column with nothing, with several values or with one value, and its
operator says with which.  `Condition.HasShape` describes the three shapes by what a condition keeps
of the given value.  Whatever `Condition.make` makes has exactly one of them; what it does not make
anything of, it refuses as an invalid query.  Statements rely on the shape: the clause of a
condition has a parameter and a mark for each value that the shape compares with
(`Condition.Binds`).
-/

namespace RelMap

/-- The value is a sequence that counts as several values, as text and bytes do not. -/
def Value.IsListing (v : Value) : Prop := v.isSequence = true ∧ v.isScalarSequence = false

/-- The value passes for the name of a column. -/
def Value.NamesColumn (v : Value) : Prop :=
  ∃ n, Name.ofValue? v = some n ∧ n.isIdentifier = true

theorem Value.namesColumn_iff {role : String} {v : Value} :
    v.NamesColumn ↔ ∃ n, checkName role v = .ok n :=
  exists_congr fun _ => checkName_eq_ok.symm

theorem checkName_eq_error {role : String} {v : Value} {e : Error}
    (h : checkName role v = .error e) : e = .invalidName role v := by
  unfold checkName at h
  split at h
  · split at h
    · cases h
    · cases h
      rfl
  · cases h
    rfl

theorem Value.IsListing.exists_items {v : Value} (h : v.IsListing) :
    ∃ items, v.items? = some items := by
  obtain ⟨hsequence, hscalar⟩ := h
  cases v with
  | list items => exact ⟨items, rfl⟩
  | tuple items => exact ⟨items, rfl⟩
  | range stop => exact ⟨_, rfl⟩
  | _ =>
    -- every other sequence is text or bytes
    exact absurd (hsequence.symm.trans hscalar) nofun

/-- What has the form of a parameter is one value. -/
theorem Value.not_isListing_of_toParameter {v p : Value} (h : v.toParameter = .ok p) :
    ¬ p.IsListing := by
  rintro ⟨hsequence, hscalar⟩
  have hone := Query.isSequence_of_toParameter
    (toParameter_of_isParameter (isParameter_of_toParameter h))
  rw [hsequence, hscalar] at hone
  cases hone

/-! ## Shapes -/

namespace Condition

/-- What a condition compares its column with: nothing, several values or one value. -/
inductive Shape where
  | unary
  | sequence
  | binary
deriving DecidableEq, Repr

namespace Shape

def operators : Shape → List String
  | unary => unaryOperators
  | sequence => sequenceOperators
  | binary => binaryOperators

/-- What a condition of the shape keeps of the given value: a value, several values, or neither. -/
def Keeps (given value : Value) (values : Option (List Value)) : Shape → Prop
  | unary => given = .null ∧ value = .null ∧ values = none
  | sequence =>
    given.IsListing ∧ value = .null ∧
      ∃ items ps, given.items? = some items ∧ values = some ps ∧
        List.Forall₂ (fun v p => v.toParameter = .ok p) items ps
  | binary =>
    ¬ given.IsListing ∧ given.toParameter = .ok value ∧ ¬ value.IsListing ∧ values = none

theorem operators_subset (shape : Shape) : ∀ op ∈ shape.operators, op ∈ RelMap.operators := by
  cases shape <;> decide

/-- No operator belongs to two shapes. -/
theorem eq_of_mem_operators {shape shape' : Shape} {op : String} (h : op ∈ shape.operators)
    (h' : op ∈ shape'.operators) : shape = shape' := by
  have hapart : ∀ op ∈ shape.operators, op ∈ shape'.operators → shape = shape' := by
    cases shape <;> cases shape' <;> decide
  exact hapart op h h'

theorem exists_mem_operators {op : String} (h : op ∈ RelMap.operators) :
    ∃ shape : Shape, op ∈ shape.operators := by
  rcases List.mem_append.mp h with h | h
  · rcases List.mem_append.mp h with h | h
    · exact ⟨binary, h⟩
    · exact ⟨sequence, h⟩
  · exact ⟨unary, h⟩

end Shape

/-- The operator of the condition belongs to the shape, and it keeps what the shape keeps of the
given value. -/
def HasShape (c : Condition) (given : Value) (shape : Shape) : Prop :=
  (∃ op ∈ shape.operators, c.operator = .text op) ∧ shape.Keeps given c.value c.values

/-- The values that a condition of the shape compares with. -/
def compared (c : Condition) : Shape → List Value
  | .unary => []
  | .sequence => c.values.getD []
  | .binary => [c.value]

variable {c : Condition} {column operator given : Value} {op : String} {shape shape' : Shape}

theorem HasShape.unique (h : c.HasShape given shape) (h' : c.HasShape given shape') :
    shape = shape' := by
  obtain ⟨⟨op, hop, hc⟩, -⟩ := h
  obtain ⟨⟨op', hop', hc'⟩, -⟩ := h'
  rw [hc] at hc'
  cases hc'
  exact Shape.eq_of_mem_operators hop hop'

theorem not_contains_unary (h : op ∈ shape.operators) (hshape : shape ≠ .unary) :
    ¬ unaryOperators.contains op = true :=
  fun hunary => hshape (Shape.eq_of_mem_operators h (List.contains_iff_mem.mp hunary))

theorem not_contains_sequence (h : op ∈ shape.operators) (hshape : shape ≠ .sequence) :
    ¬ sequenceOperators.contains op = true :=
  fun hsequence => hshape (Shape.eq_of_mem_operators h (List.contains_iff_mem.mp hsequence))

/-- What is made with an operator of the shape are the conditions that keep what the shape keeps. -/
theorem ofOperator_eq_ok_iff (hop : op ∈ shape.operators) :
    ofOperator column op given = .ok c ↔
      c.column = column ∧ c.operator = .text op ∧ shape.Keeps given c.value c.values := by
  obtain ⟨c, o, value, values⟩ := c
  cases shape with
  | unary =>
    have hunary : unaryOperators.contains op = true := List.contains_iff_mem.mpr hop
    rw [ofOperator, if_pos hunary]
    constructor
    · intro h
      split at h
      · next hnull =>
        cases h
        exact ⟨rfl, rfl, Value.isNull_iff.mp hnull, rfl, rfl⟩
      · cases h
    · rintro ⟨rfl, rfl, rfl, rfl, rfl⟩
      rfl
  | sequence =>
    have hsequence : sequenceOperators.contains op = true := List.contains_iff_mem.mpr hop
    have hguard : (given.isScalarSequence || !given.isSequence) = true ↔ ¬ given.IsListing := by
      simp [Value.IsListing, imp_iff_or_not]
    rw [ofOperator, if_neg (not_contains_unary hop (by decide)), if_pos hsequence]
    constructor
    · intro h
      split at h
      · cases h
      · next hlisting =>
        rw [hguard, not_not] at hlisting
        obtain ⟨ps, hps, h⟩ := Result.bind_eq_ok.mp h
        cases h
        obtain ⟨items, hitems⟩ := hlisting.exists_items
        rw [hitems] at hps
        exact ⟨rfl, rfl, hlisting, rfl, items, ps, hitems, rfl, Result.mapM_eq_ok_iff.mp hps⟩
    · rintro ⟨rfl, rfl, hlisting, rfl, items, ps, hitems, rfl, hps⟩
      rw [if_neg (mt hguard.mp (not_not.mpr hlisting)), hitems]
      exact Result.bind_eq_ok.mpr ⟨ps, Result.mapM_eq_ok_iff.mpr hps, rfl⟩
  | binary =>
    have hguard : (given.isSequence && !given.isScalarSequence) = true ↔ given.IsListing := by
      simp [Value.IsListing]
    rw [ofOperator, if_neg (not_contains_unary hop (by decide)),
      if_neg (not_contains_sequence hop (by decide))]
    constructor
    · intro h
      split at h
      · cases h
      · next hone =>
        obtain ⟨p, hp, h⟩ := Result.bind_eq_ok.mp h
        cases h
        exact ⟨rfl, rfl, mt hguard.mpr hone, hp, Value.not_isListing_of_toParameter hp, rfl⟩
    · rintro ⟨rfl, rfl, hone, hp, -, rfl⟩
      rw [if_neg (mt hguard.mp hone)]
      exact Result.bind_eq_ok.mpr ⟨value, hp, rfl⟩

theorem hasShape_ofOperator (hop : op ∈ shape.operators)
    (h : ofOperator column op given = .ok c) :
    c.column = column ∧ c.operator = .text op ∧ c.HasShape given shape := by
  obtain ⟨hcolumn, hoperator, hkeeps⟩ := (ofOperator_eq_ok_iff hop).mp h
  exact ⟨hcolumn, hoperator, ⟨op, hop, hoperator⟩, hkeeps⟩

/-- With every operator a condition can be made. -/
theorem exists_ofOperator (column : Value) (hop : op ∈ shape.operators) :
    ∃ v c, ofOperator column op v = .ok c := by
  obtain ⟨v, value, values, hkeeps⟩ : ∃ v value values, shape.Keeps v value values := by
    cases shape with
    | unary => exact ⟨.null, .null, none, rfl, rfl, rfl⟩
    | sequence => exact ⟨.list [], .null, some [], ⟨rfl, rfl⟩, rfl, [], [], rfl, rfl, .nil⟩
    | binary =>
      have hone := Value.not_isListing_of_toParameter (v := .null) rfl
      exact ⟨.null, .null, none, hone, rfl, hone, rfl⟩
  exact ⟨v, { column, operator := .text op, value, values },
    (ofOperator_eq_ok_iff hop).mpr ⟨rfl, rfl, hkeeps⟩⟩

theorem ofOperator_eq_error {e : Error} (h : ofOperator column op given = .error e) :
    e.kind = .invalidQuery := by
  unfold ofOperator at h
  split at h
  · split at h
    · cases h
    · cases h
      rfl
  · split at h
    · split at h
      · cases h
        rfl
      · rcases Result.bind_eq_error.mp h with h | ⟨ps, -, h⟩
        · obtain ⟨name, rfl⟩ := toParameters_eq_error h
          rfl
        · cases h
    · split at h
      · cases h
        rfl
      · rcases Result.bind_eq_error.mp h with h | ⟨p, -, h⟩
        · obtain ⟨name, rfl⟩ := Value.toParameter_eq_error h
          rfl
        · cases h

/-! ## Clauses -/

/-- The clause of the condition binds these values, and behind its column, as far as it mentions it,
it shows a mark for each of them. -/
structure Binds (c : Condition) (vs : List Value) : Prop where
  holes : Piece.holes c.pieces = vs
  marks : ∀ style first, ParamStyle.IsKnown style → ∃ lead tail,
    Piece.write style first c.pieces = .ok (lead ++ tail) ∧ (lead = "" ∨ lead = c.column.display) ∧
      style.marksIn tail.toList = style.marks first vs.length

/-- The condition without its column, whose label may have signs of its own. -/
def bare (c : Condition) : Condition := { c with column := .text "" }

/-- A clause shows its column first, or does not mention it, and has its marks behind. -/
theorem pieces_bare (c : Condition) :
    c.pieces = c.bare.pieces ∨
      ∃ ps, c.pieces = .name c.column :: ps ∧ c.bare.pieces = .name (.text "") :: ps := by
  by_cases hunary : c.isUnary = true
  · exact .inr ⟨[.fixed " ", .operator c.operator], if_pos hunary, if_pos hunary⟩
  · have hbare : ¬ c.bare.isUnary = true := hunary
    have hvalues : c.bare.values = c.values := rfl
    rw [pieces, pieces, if_neg hunary, if_neg hbare, hvalues]
    split
    · exact .inl rfl
    · exact .inr ⟨_, rfl, rfl⟩
    · exact .inr ⟨_, rfl, rfl⟩

theorem write_pieces (c : Condition) :
    ∃ lead, (lead = "" ∨ lead = c.column.display) ∧ ∀ style first,
      Piece.write style first c.pieces =
        (Piece.write style first c.bare.pieces).map (lead ++ ·) := by
  have hempty : ∀ r : Result String, r.map ("" ++ ·) = r := by
    intro r
    cases r with
    | ok s => exact congrArg Except.ok String.empty_append
    | error e => rfl
  rcases c.pieces_bare with h | ⟨ps, h, hbare⟩
  · refine ⟨"", .inl rfl, fun style first => ?_⟩
    rw [h, hempty]
  · refine ⟨c.column.display, .inr rfl, fun style first => ?_⟩
    have hnone : (Piece.name (.text "")).wording? = some "" := rfl
    rw [h, hbare, Piece.write_worded rfl, Piece.write_worded hnone, hempty]

theorem holes_bare (c : Condition) : Piece.holes c.bare.pieces = Piece.holes c.pieces := by
  rcases c.pieces_bare with h | ⟨ps, h, hbare⟩
  · rw [h]
  · rw [h, hbare]
    rfl

theorem exists_write_bare (c : Condition) {style : ParamStyle} (hstyle : style.IsKnown)
    (first : Nat) : ∃ s, Piece.write style first c.bare.pieces = .ok s := by
  refine Query.exists_write hstyle (fun v hv => ?_) first
  have hsubject : v ∈ Piece.subjects c.bare.pieces := List.mem_filterMap.mpr ⟨_, hv, rfl⟩
  exact ⟨"", congrArg Value.textOf? (subjects_pieces hsubject)⟩

/-- The clause of a condition without its column is woven of a test with its operator, which has the
values that the condition's shape compares with. -/
theorem HasShape.woven (h : c.HasShape given shape) (hc : c.operator = .text op) :
    toParameters (Clause.test "" op given).values = .ok (c.compared shape) ∧
      ∀ style, Piece.Woven style [.test "" op given] c.bare.pieces := by
  obtain ⟨column, operator, value, values⟩ := c
  obtain ⟨⟨op', hop, hoperator⟩, hkeeps⟩ := h
  cases hoperator
  cases hc
  have hknown := List.contains_iff_mem.mpr (shape.operators_subset op hop)
  have hplain : (Clause.test "" op given).IsPlain :=
    ⟨by decide, Piece.signFree_of_operator hknown⟩
  cases shape with
  | unary =>
    obtain ⟨-, hvalue, hvalues⟩ := hkeeps
    cases hvalue
    cases hvalues
    have hunary : unaryOperators.contains op = true := List.contains_iff_mem.mpr hop
    rw [Clause.values, if_pos hunary]
    exact ⟨List.mapM_nil, fun style => Piece.woven_unary hplain hunary⟩
  | sequence =>
    obtain ⟨-, hvalue, items, ps, hitems, hvalues, hps⟩ := hkeeps
    cases hvalue
    cases hvalues
    have hunary := not_contains_unary hop (by decide)
    have hsequence : sequenceOperators.contains op = true := List.contains_iff_mem.mpr hop
    have hparams : toParameters (given.items?.getD []) = .ok ps := by
      rw [hitems]
      exact Result.mapM_eq_ok_iff.mpr hps
    rw [Clause.values, if_neg hunary, if_pos hsequence]
    exact ⟨hparams, fun style => Piece.woven_sequence hplain hunary hsequence hparams⟩
  | binary =>
    obtain ⟨-, hp, -, hvalues⟩ := hkeeps
    cases hvalues
    have hunary := not_contains_unary hop (by decide)
    have hsequence := not_contains_sequence hop (by decide)
    rw [Clause.values, if_neg hunary, if_neg hsequence]
    exact ⟨Result.mapM_cons_eq_ok.mpr ⟨value, [], hp, List.mapM_nil, rfl⟩,
      fun style => Piece.woven_binary hplain hunary hsequence hp⟩

/-- **The clause of a condition has a parameter and a mark for each value of its shape.** -/
theorem HasShape.binds (h : c.HasShape given shape) : c.Binds (c.compared shape) := by
  obtain ⟨op, -, hoperator⟩ := h.1
  obtain ⟨hparams, hwoven⟩ := h.woven hoperator
  have hholes : Piece.holes c.bare.pieces = c.compared shape := by
    have hbound := (hwoven .question).params
    rw [List.flatMap_singleton, hparams] at hbound
    exact (Except.ok.inj hbound).symm
  refine ⟨c.holes_bare.symm.trans hholes, fun style first hstyle => ?_⟩
  obtain ⟨lead, hlead, hwrite⟩ := c.write_pieces
  obtain ⟨tail, htail⟩ := c.exists_write_bare hstyle first
  refine ⟨lead, tail, ?_, hlead, ?_⟩
  · rw [hwrite, htail]
    rfl
  · rw [((hwoven style).text first tail htail).marksIn_eq, ← (hwoven style).length_holes, hholes]

/-- Where the column has no sign of a mark, these are the marks of the whole clause. -/
theorem Binds.marksIn_eq {vs : List Value} (h : c.Binds vs)
    (hcolumn : SignFree c.column.display.toList) {style : ParamStyle} (hstyle : style.IsKnown)
    {first : Nat} {s : String} (hs : Piece.write style first c.pieces = .ok s) :
    style.marksIn s.toList = style.marks first vs.length := by
  obtain ⟨lead, tail, hwrite, hlead, hmarks⟩ := h.marks style first hstyle
  rw [hwrite] at hs
  cases hs
  have hfree : SignFree lead.toList := by
    rcases hlead with rfl | rfl
    · decide
    · exact hcolumn
  rw [String.toList_append, ParamStyle.marksIn_append hfree, hmarks]

/-! ## Making conditions -/

theorem make_eq_ok (h : make column operator given = .ok c) :
    column.NamesColumn ∧ ∃ s, operator.textOf? = some s ∧ normalizeOperator s ∈ operators ∧
      ofOperator column (normalizeOperator s) given = .ok c := by
  obtain ⟨n, hn, h⟩ := Result.bind_eq_ok.mp h
  refine ⟨Value.namesColumn_iff.mpr ⟨n, hn⟩, ?_⟩
  split at h
  · cases h
  · next s hs =>
    dsimp only at h
    split at h
    · next hknown => exact ⟨s, hs, List.contains_iff_mem.mp hknown, h⟩
    · cases h

theorem make_eq_error {e : Error} (h : make column operator given = .error e) :
    e.kind = .invalidQuery := by
  rcases Result.bind_eq_error.mp h with h | ⟨n, -, h⟩
  · rw [checkName_eq_error h]
    rfl
  · split at h
    · cases h
      rfl
    · dsimp only at h
      split at h
      · exact ofOperator_eq_error h
      · cases h
        rfl

/-- Of an operator nothing counts but its normal form. -/
theorem make_of_spelling {s : String} (hs : operator.textOf? = some s)
    (hknown : normalizeOperator s ∈ operators) (column given : Value) :
    make column operator given = checkName "column name" column >>= fun _ =>
      ofOperator column (normalizeOperator s) given := by
  have hcontains := List.contains_iff_mem.mpr hknown
  unfold make
  rw [hs]
  dsimp only
  rw [if_pos hcontains]

/-- A spelling is accepted exactly if its normal form is an operator. -/
theorem exists_make_iff {s : String} (hs : operator.textOf? = some s) :
    (∃ v c, make column operator v = .ok c) ↔
      column.NamesColumn ∧ normalizeOperator s ∈ operators := by
  constructor
  · rintro ⟨v, c, h⟩
    obtain ⟨hcolumn, s', hs', hknown, -⟩ := make_eq_ok h
    rw [hs] at hs'
    cases hs'
    exact ⟨hcolumn, hknown⟩
  · rintro ⟨hcolumn, hknown⟩
    obtain ⟨n, hn⟩ := Value.namesColumn_iff.mp hcolumn
    obtain ⟨shape, hshape⟩ := Shape.exists_mem_operators hknown
    obtain ⟨v, c, h⟩ := exists_ofOperator column hshape
    refine ⟨v, c, ?_⟩
    rw [make_of_spelling hs hknown]
    exact Result.bind_eq_ok.mpr ⟨n, hn, h⟩

end Condition

end RelMap
