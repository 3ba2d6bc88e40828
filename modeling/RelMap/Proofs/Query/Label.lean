import RelMap.Proofs.Query.Alignment
import RelMap.Proofs.Query.Edit
import RelMap.Proofs.Query.Written

/-!
# Labels in statements

A name may be given by a labelled constant that passes for text, and a count by one that passes for
an integer.  What is checked is the text and the integer; what is written is not always the same.
In a list names are joined by their characters, whereas in running text a name or a count is shown
under its label.

`Query.words` lists what a statement says of names and counts, each in its role and in the order of
the text, and `Query.words_pieces` finds it in the pieces that are written.  All of it was checked
if the caller left the checks to the library (`Query.Accepted`), and it is written as it was checked
exactly if no label is shown (`Query.emits_accepted`).
-/

namespace RelMap

/-! ## What is accepted and what is shown -/

/-- The label that a value is shown under in running text. -/
def Value.label? : Value → Option Label
  | textConstant l _ => some l
  | intConstant l _ => some l
  | sqlType t => some ⟨"SqlType", t.name⟩
  | _ => none

/-- The value is accepted where a name is asked for. -/
def Value.IsAcceptedName (v : Value) : Prop :=
  ∃ n, Name.ofValue? v = some n ∧ n.isIdentifier = true

/-- The value is accepted where a count is asked for. -/
def Value.IsAcceptedCount (v : Value) : Prop :=
  ∃ n : Nat, v = .int n ∨ ∃ l, v = .intConstant l n

theorem Label.dot_mem_text (l : Label) : '.' ∈ l.text.toList := by
  simp [Label.text, String.toList_append]

/-- No label reads like a number. -/
theorem Label.text_ne_toString (l : Label) (n : Nat) : l.text ≠ toString n := by
  intro h
  have hdot := l.dot_mem_text
  rw [h] at hdot
  exact absurd (isDigit_toString n '.' hdot) (by decide)

namespace Piece

/-- Does the piece say a name or a count? -/
def isWord : Piece → Bool
  | name _ => true
  | listed _ => true
  | number _ => true
  | _ => false

def words (ps : List Piece) : List Piece := ps.filter isWord

/-- What was checked of a name or a count: the characters of the one, the digits of the other. -/
def due? : Piece → Option String
  | name v => v.textOf?
  | listed v => v.textOf?
  | number v => v.intOf?.map toString
  | _ => none

/-- The name or count was accepted; a projection may also say that it wants all columns. -/
def IsAccepted : Piece → Prop
  | name v => v.IsAcceptedName
  | listed v => v = Query.allColumns ∨ v.IsAcceptedName
  | number v => v.IsAcceptedCount
  | _ => True

/-- The piece is not in running text, or shows no label there, except one that is spelled like the
name itself. -/
def IsBare : Piece → Prop
  | name v => ∀ l, v.label? = some l → v.textOf? = some l.text
  | number v => v.label? = none
  | _ => True

theorem wording_name_iff {v : Value} (hv : v.IsAcceptedName) :
    (name v).wording? = (name v).due? ↔ (name v).IsBare := by
  obtain ⟨n, hn, -⟩ := hv
  cases v with
  | text s => simp [wording?, due?, IsBare, Value.display, Value.textOf?, Value.label?]
  | textConstant l s =>
    simp [wording?, due?, IsBare, Value.display, Value.textOf?, Value.label?, eq_comm]
  | sqlType t =>
    cases t <;> simp [wording?, due?, IsBare, Value.display, Value.textOf?, Value.label?,
      SqlType.name, Label.text]
  | _ => cases hn

theorem wording_number_iff {v : Value} (hv : v.IsAcceptedCount) :
    (number v).wording? = (number v).due? ↔ (number v).IsBare := by
  obtain ⟨n, rfl | ⟨l, rfl⟩⟩ := hv
  · simp [wording?, due?, IsBare, Value.display, Value.literal, Value.intOf?, Value.label?]
  · constructor
    · intro h
      exact absurd (Option.some.inj h) (l.text_ne_toString n)
    · intro h
      cases h

/-- What was accepted is written as it was checked exactly if no label is shown. -/
theorem wording_eq_due_iff {p : Piece} (hp : p.IsAccepted) (hword : p.isWord = true) :
    p.wording? = p.due? ↔ p.IsBare := by
  cases p with
  | name v => exact wording_name_iff hp
  | listed v => exact ⟨fun _ => trivial, fun _ => rfl⟩
  | number v => exact wording_number_iff hp
  | _ => cases hword

/-! ## Words of pieces -/

@[simp] theorem words_nil : words [] = [] := rfl

@[simp] theorem words_append (ps qs : List Piece) : words (ps ++ qs) = words ps ++ words qs :=
  List.filter_append ..

@[simp] theorem words_fixed (s : String) (ps : List Piece) : words (fixed s :: ps) = words ps := rfl

@[simp] theorem words_operator (v : Value) (ps : List Piece) :
    words (operator v :: ps) = words ps := rfl

@[simp] theorem words_hole (v : Value) (ps : List Piece) : words (hole v :: ps) = words ps := rfl

@[simp] theorem words_name (v : Value) (ps : List Piece) :
    words (name v :: ps) = name v :: words ps := rfl

@[simp] theorem words_listed (v : Value) (ps : List Piece) :
    words (listed v :: ps) = listed v :: words ps := rfl

@[simp] theorem words_number (v : Value) (ps : List Piece) :
    words (number v :: ps) = number v :: words ps := rfl

@[simp] theorem words_separated (sep : String) (groups : List (List Piece)) :
    words (separated sep groups) = groups.flatMap words := by
  induction groups with
  | nil => rfl
  | cons group groups ih =>
    cases groups with
    | nil => simp [separated]
    | cons other groups =>
      simp only [separated, words_append, words_fixed, ih]
      rfl

@[simp] theorem words_nameList (vs : List Value) : words (nameList vs) = vs.map listed := by
  simp [nameList, List.flatMap_map, ← List.map_eq_flatMap]

@[simp] theorem words_holeList (vs : List Value) : words (holeList vs) = [] := by
  simp [holeList, List.flatMap_map]

end Piece

/-! ## Words of statements -/

/-- A condition says the name of its column unless it is on the elements of an empty sequence. -/
def Condition.words (c : Condition) : List Piece :=
  if !c.isUnary && c.values.any List.isEmpty then [] else [.name c.column]

theorem Condition.words_pieces (c : Condition) : Piece.words c.pieces = c.words := by
  unfold pieces words
  by_cases hunary : c.isUnary = true
  · simp [hunary]
  · cases hvalues : c.values with
    | none => simp [hunary]
    | some vs =>
      cases vs with
      | nil => simp [hunary]
      | cons v vs => simp [hunary]

namespace Query

open Piece

/-- The names in the conditions. -/
def testWords (q : Query) : List Piece := q.conditions.flatMap Condition.words

/-- The counts that are set. -/
def countWords (q : Query) : List Piece :=
  ([q.limit, q.offset].filter fun v => !v.isNull).map number

/-- What a statement of some kind says of names and counts, in the order of the text. -/
def words (q : Query) : Kind → List Piece
  | .select => q.columns.map Piece.listed ++ name q.table ::
      (q.testWords ++ q.ordering.map (fun o => name o.column) ++ q.countWords ++
        q.returning.map Piece.listed)
  | .insert => name q.table ::
      ((if q.defaultValues.truthy then [] else q.values.map fun c => Piece.listed c.1) ++
        q.returning.map Piece.listed)
  | .update => name q.table ::
      (q.assignments.map (fun c => name c.1) ++ q.testWords ++ q.returning.map Piece.listed)
  | .delete => name q.table :: (q.testWords ++ q.returning.map Piece.listed)

variable (q : Query)

theorem words_where : Piece.words q.wherePieces = q.testWords := by
  unfold wherePieces testWords
  by_cases hnone : q.conditions = []
  · simp [hnone]
  · simp [hnone, List.flatMap_map, Condition.words_pieces]

theorem words_order : Piece.words q.orderPieces = q.ordering.map fun o => name o.column := by
  unfold orderPieces
  by_cases hnone : q.ordering = []
  · simp [hnone]
  · simp [hnone, List.flatMap_map, ← List.map_eq_flatMap]

theorem words_paging (d : Dialect) :
    Piece.words q.limitPieces ++ Piece.words (q.offsetPieces d) = q.countWords := by
  unfold limitPieces offsetPieces countWords
  by_cases hlimit : q.limit.isNull = true <;> by_cases hoffset : q.offset.isNull = true <;>
    by_cases hfiller : d.offsetFiller.truthy = true <;> simp [hlimit, hoffset, hfiller]

theorem words_returning : Piece.words q.returningPieces = q.returning.map Piece.listed := by
  unfold returningPieces
  by_cases hnone : q.returning = []
  · simp [hnone]
  · simp [hnone]

/-- The names and counts in the pieces of a statement are those of the query. -/
theorem words_pieces (k : Kind) (d : Dialect) : Piece.words (q.pieces k d) = q.words k := by
  cases k with
  | select =>
    rw [words, ← q.words_paging d]
    simp [pieces, selectPieces, tablePiece, words_where, words_order, words_returning]
  | insert =>
    by_cases hdefaults : q.defaultValues.truthy = true <;>
      simp [pieces, insertPieces, words, tablePiece, words_returning, hdefaults, Function.comp_def]
  | update =>
    simp [pieces, updatePieces, words, tablePiece, words_where, words_returning, List.flatMap_map,
      ← List.map_eq_flatMap]
  | delete => simp [pieces, deletePieces, words, tablePiece, words_where, words_returning]

/-- The query has names and counts that were accepted, where it has any. -/
structure Accepted : Prop where
  table : q.table.isNull = true ∨ q.table.IsAcceptedName
  columns : ∀ v ∈ q.columns, v = allColumns ∨ v.IsAcceptedName
  values : ∀ c ∈ q.values, c.1.IsAcceptedName
  assignments : ∀ c ∈ q.assignments, c.1.IsAcceptedName
  conditions : ∀ c ∈ q.conditions, c.column.IsAcceptedName
  ordering : ∀ o ∈ q.ordering, o.column.IsAcceptedName
  limit : q.limit.isNull = true ∨ q.limit.IsAcceptedCount
  offset : q.offset.isNull = true ∨ q.offset.IsAcceptedCount
  returning : ∀ v ∈ q.returning, v.IsAcceptedName

variable {q}

/-- What such a query says was accepted. -/
theorem Accepted.words (hq : q.Accepted) (htable : q.table.isNull = false) (k : Kind) :
    ∀ p ∈ q.words k, p.IsAccepted := by
  have hname : (name q.table).IsAccepted := by
    rcases hq.table with hnull | hname
    · rw [htable] at hnull
      cases hnull
    · exact hname
  have hreturning : ∀ p ∈ q.returning.map Piece.listed, p.IsAccepted :=
    List.forall_mem_map.mpr fun v hv => .inr (hq.returning v hv)
  have htests : ∀ p ∈ q.testWords, p.IsAccepted := by
    intro p hp
    obtain ⟨c, hc, hp⟩ := List.mem_flatMap.mp hp
    unfold Condition.words at hp
    split at hp
    · cases hp
    · cases List.mem_singleton.mp hp
      exact hq.conditions c hc
  have hcounts : ∀ p ∈ q.countWords, p.IsAccepted := by
    intro p hp
    obtain ⟨v, hv, rfl⟩ := List.mem_map.mp hp
    obtain ⟨hv, hset⟩ := List.mem_filter.mp hv
    simp only [List.mem_cons, List.not_mem_nil, or_false] at hv
    rcases hv with rfl | rfl
    · exact hq.limit.resolve_left (by simpa using hset)
    · exact hq.offset.resolve_left (by simpa using hset)
  cases k with
  | select =>
    have hcolumns : ∀ p ∈ q.columns.map Piece.listed, p.IsAccepted :=
      List.forall_mem_map.mpr hq.columns
    have hordering : ∀ p ∈ q.ordering.map fun o => name o.column, p.IsAccepted :=
      List.forall_mem_map.mpr hq.ordering
    simp only [Query.words, List.forall_mem_append, List.forall_mem_cons]
    exact ⟨hcolumns, hname, ⟨⟨htests, hordering⟩, hcounts⟩, hreturning⟩
  | insert =>
    simp only [Query.words, List.forall_mem_append, List.forall_mem_cons]
    refine ⟨hname, ?_, hreturning⟩
    split
    · nofun
    · exact List.forall_mem_map.mpr fun c hc => .inr (hq.values c hc)
  | update =>
    have hassignments : ∀ p ∈ q.assignments.map fun c => name c.1, p.IsAccepted :=
      List.forall_mem_map.mpr hq.assignments
    simp only [Query.words, List.forall_mem_append, List.forall_mem_cons]
    exact ⟨hname, ⟨hassignments, htests⟩, hreturning⟩
  | delete =>
    simp only [Query.words, List.forall_mem_append, List.forall_mem_cons]
    exact ⟨hname, htests, hreturning⟩

/-! ## Calls that leave the checks to the library -/

/-- The edit brings names and counts that were accepted. -/
def Edit.IsAccepted : Edit → Prop
  | become q => q.Accepted
  | select columns _ => ∀ v ∈ columns, v = allColumns ∨ v.IsAcceptedName
  | target table _ => table.IsAcceptedName
  | insert row table _ => (∀ c ∈ row, c.1.IsAcceptedName) ∧ table.IsAcceptedName
  | insertDefaults table _ => table.IsAcceptedName
  | update row table _ => (∀ c ∈ row, c.1.IsAcceptedName) ∧ table.IsAcceptedName
  | delete table _ => table.IsAcceptedName
  | addCondition c => c.column.IsAcceptedName
  | addOrdering o => o.column.IsAcceptedName
  | limit n => n.IsAcceptedCount
  | offset n => n.IsAcceptedCount
  | returning columns => ∀ v ∈ columns, v.IsAcceptedName

theorem accepted_start : Accepted {} :=
  ⟨.inl rfl, nofun, nofun, nofun, nofun, nofun, .inl rfl, .inl rfl, nofun⟩

theorem Accepted.apply (hq : q.Accepted) {e : Edit} (he : e.IsAccepted) :
    (e.apply q).Accepted := by
  cases e with
  | become r => exact he
  | select columns distinct => exact { hq with columns := he }
  | target table model => exact { hq with table := .inr he }
  | insert row table model => exact { hq with values := he.1, table := .inr he.2 }
  | insertDefaults table model => exact { hq with values := nofun, table := .inr he }
  | update row table model => exact { hq with assignments := he.1, table := .inr he.2 }
  | delete table model => exact { hq with table := .inr he }
  | addCondition c =>
    refine { hq with conditions := ?_ }
    simpa [Edit.apply, or_imp, forall_and] using ⟨hq.conditions, he⟩
  | addOrdering o =>
    refine { hq with ordering := ?_ }
    simpa [Edit.apply, or_imp, forall_and] using ⟨hq.ordering, he⟩
  | limit n => exact { hq with limit := .inr he }
  | offset n => exact { hq with offset := .inr he }
  | returning columns => exact { hq with returning := he }

theorem Accepted.foldl_apply (hq : q.Accepted) {edits : List Edit}
    (hedits : ∀ e ∈ edits, e.IsAccepted) : (edits.foldl Edit.apply q).Accepted := by
  induction edits generalizing q with
  | nil => exact hq
  | cons e edits ih =>
    rw [List.forall_mem_cons] at hedits
    exact ih (hq.apply hedits.1) hedits.2

end Query

theorem Value.isAcceptedName_of_checkName {role : String} {v : Value} {n : Name}
    (h : checkName role v = .ok n) : v.IsAcceptedName :=
  ⟨n, checkName_eq_ok.mp h⟩

namespace Query

theorem isAcceptedName_of_columnName {v w : Value} (h : columnName v = .ok w) :
    w.IsAcceptedName := by
  obtain ⟨n, hn, rfl⟩ := Result.map_eq_ok.mp h
  exact Value.isAcceptedName_of_checkName hn

theorem isAcceptedName_of_columnNames {vs ws : List Value} (h : vs.mapM columnName = .ok ws) :
    ∀ w ∈ ws, w.IsAcceptedName := by
  intro w hw
  obtain ⟨v, -, hv⟩ := Result.exists_mem_of_mapM_eq_ok h hw
  exact isAcceptedName_of_columnName hv

theorem isAcceptedName_of_projection {columns : Value} {names : List Value}
    (h : projection columns = .ok names) : ∀ v ∈ names, v = allColumns ∨ v.IsAcceptedName := by
  unfold projection at h
  split at h
  · dsimp only at h
    split at h
    · cases h
      simp
    · cases h
  · split at h
    · exact fun v hv => .inr (isAcceptedName_of_columnNames h v hv)
    · cases h

theorem isAcceptedName_of_cells {row : Value} {cs : List Cell} (h : cells row = .ok cs) :
    ∀ c ∈ cs, c.1.IsAcceptedName := by
  unfold cells at h
  split at h
  · intro c hc
    obtain ⟨e, -, he⟩ := Result.exists_mem_of_mapM_eq_ok h hc
    obtain ⟨n, hn, he⟩ := Result.bind_eq_ok.mp he
    obtain ⟨p, -, he⟩ := Result.bind_eq_ok.mp he
    cases he
    exact isAcceptedName_of_columnName hn
  · cases h

theorem isAcceptedCount_of_count {clause : String} {v w : Value} (h : count clause v = .ok w) :
    w.IsAcceptedCount := by
  obtain ⟨rfl, hcount⟩ := exists_of_count h
  exact hcount

end Query

/-- The condition that is made of a checked column, an operator and a value is on that column. -/
theorem Condition.column_ofOperator {column v : Value} {op : String} {c : Condition}
    (h : ofOperator column op v = .ok c) : c.column = column := by
  unfold ofOperator at h
  split at h
  · split at h <;> cases h
    rfl
  · split at h
    · split at h
      · cases h
      · obtain ⟨vs, -, h⟩ := Result.bind_eq_ok.mp h
        cases h
        rfl
    · split at h
      · cases h
      · obtain ⟨p, -, h⟩ := Result.bind_eq_ok.mp h
        cases h
        rfl

theorem Condition.isAcceptedName_of_make {column operator v : Value} {c : Condition}
    (h : make column operator v = .ok c) : c.column.IsAcceptedName := by
  obtain ⟨n, hn, h⟩ := Result.bind_eq_ok.mp h
  split at h
  · cases h
  · dsimp only at h
    split at h
    · rw [column_ofOperator h]
      exact Value.isAcceptedName_of_checkName hn
    · cases h

/-- If the term names a table by a model, the table of the model was accepted. -/
def ModelTerm.IsChecked (catalog : Catalog) : ModelTerm → Prop
  | argument (.model m) => ∀ e, catalog.entity m = .ok e → e.table.isIdentifier = true
  | _ => True

/-- The call leaves all checks of names and counts to the library: it puts no query together from
parts, and no condition on a column that would not be accepted. -/
def BuilderCall.IsChecked (catalog : Catalog) : BuilderCall → Prop
  | start parts => parts = []
  | ofModel m => (ModelTerm.argument (.model m)).IsChecked catalog
  | fromTable table => table.IsChecked catalog
  | insert table _ => table.IsChecked catalog
  | insertDefaults table => table.IsChecked catalog
  | update table _ => table.IsChecked catalog
  | delete table => table.IsChecked catalog
  | whereParts parts _ => ∀ c, Condition.ofArguments parts = .ok c → c.column.IsAcceptedName
  | _ => True

namespace BuilderCall

variable {catalog : Catalog}

theorem isAcceptedName_of_targetOf {table : ModelTerm} (htable : table.IsChecked catalog)
    {t : Value × Option ModelId} (h : targetOf catalog table = .ok t) : t.1.IsAcceptedName := by
  obtain ⟨a, ha, h⟩ := Result.bind_eq_ok.mp h
  cases a with
  | model m =>
    obtain ⟨e, he, h⟩ := Result.bind_eq_ok.mp h
    cases h
    have hterm : table = .argument (.model m) := by
      cases table with
      | argument b =>
        cases ha
        rfl
      | fresh m' arguments =>
        obtain ⟨i, -, hi⟩ := Result.map_eq_ok.mp ha
        cases hi
    subst hterm
    exact ⟨e.table, Name.ofValue?_toValue e.table, htable e he⟩
  | value v =>
    obtain ⟨n, hn, h⟩ := Result.bind_eq_ok.mp h
    cases h
    exact Value.isAcceptedName_of_checkName hn

open Query

/-- A call that leaves the checks to the library brings only what was accepted. -/
theorem IsChecked.edit {c : BuilderCall} (hc : c.IsChecked catalog) {e : Edit}
    (h : c.edit catalog = .ok e) : e.IsAccepted := by
  cases c with
  | start parts =>
    cases hc
    cases h
    exact accepted_start
  | ofModel m =>
    obtain ⟨r, hr, rfl⟩ := Result.map_eq_ok.mp h
    obtain ⟨-, -, hr⟩ := Result.bind_eq_ok.mp hr
    obtain ⟨s, hs, hr⟩ := Result.bind_eq_ok.mp hr
    obtain ⟨t, ht, hr⟩ := Result.bind_eq_ok.mp hr
    obtain ⟨names, hnames, hs⟩ := Result.bind_eq_ok.mp hs
    cases hr
    cases hs
    have hmodel : (ModelTerm.argument (.model m)).IsChecked catalog := hc
    have htable : t.1.IsAcceptedName := isAcceptedName_of_targetOf hmodel ht
    exact { accepted_start with
      table := .inr htable
      columns := isAcceptedName_of_projection hnames }
  | select columns distinct =>
    obtain ⟨names, hnames, rfl⟩ := Result.map_eq_ok.mp h
    exact isAcceptedName_of_projection hnames
  | fromTable table =>
    obtain ⟨t, ht, rfl⟩ := Result.map_eq_ok.mp h
    exact isAcceptedName_of_targetOf hc ht
  | insert table row =>
    obtain ⟨cs, t, hcs, ht, rfl⟩ := rowEdit_eq_ok h
    exact ⟨isAcceptedName_of_cells hcs, isAcceptedName_of_targetOf hc ht⟩
  | insertDefaults table =>
    obtain ⟨t, ht, rfl⟩ := Result.map_eq_ok.mp h
    exact isAcceptedName_of_targetOf hc ht
  | update table row =>
    obtain ⟨cs, t, hcs, ht, rfl⟩ := rowEdit_eq_ok h
    exact ⟨isAcceptedName_of_cells hcs, isAcceptedName_of_targetOf hc ht⟩
  | delete table =>
    obtain ⟨t, ht, rfl⟩ := Result.map_eq_ok.mp h
    exact isAcceptedName_of_targetOf hc ht
  | whereColumn column operator value =>
    simp only [BuilderCall.edit] at h
    split at h
    · cases h
    · obtain ⟨x, hx, rfl⟩ := Result.map_eq_ok.mp h
      exact Condition.isAcceptedName_of_make hx
  | whereParts parts operator =>
    obtain ⟨x, hx, h⟩ := Result.bind_eq_ok.mp h
    rw [conditionEdit_eq_ok h]
    exact hc x hx
  | whereComparison k column value operator =>
    obtain ⟨x, hx, h⟩ := Result.bind_eq_ok.mp h
    rw [conditionEdit_eq_ok h]
    unfold Comparison.condition at hx
    split at hx
    · exact Condition.isAcceptedName_of_make hx
    · cases hx
  | orderBy column descending =>
    obtain ⟨n, hn, rfl⟩ := Result.map_eq_ok.mp h
    exact isAcceptedName_of_columnName hn
  | limit n =>
    obtain ⟨v, hv, rfl⟩ := Result.map_eq_ok.mp h
    exact isAcceptedCount_of_count hv
  | offset n =>
    obtain ⟨v, hv, rfl⟩ := Result.map_eq_ok.mp h
    exact isAcceptedCount_of_count hv
  | returning columns =>
    simp only [BuilderCall.edit] at h
    split at h
    · cases h
    · split at h
      · cases h
      · obtain ⟨names, hnames, rfl⟩ := Result.map_eq_ok.mp h
        exact isAcceptedName_of_columnNames hnames

end BuilderCall

namespace Query

variable {q : Query} {catalog : Catalog} {d : Dialect} {calls : List BuilderCall}

theorem accepted_runCalls (hcalls : ∀ c ∈ calls, c.IsChecked catalog)
    (h : runCalls catalog {} calls = .ok q) : q.Accepted := by
  rw [runCalls_eq] at h
  obtain ⟨edits, hedits, rfl⟩ := Result.map_eq_ok.mp h
  refine accepted_start.foldl_apply fun e he => ?_
  obtain ⟨c, hc, hce⟩ := Result.exists_mem_of_mapM_eq_ok hedits he
  exact (hcalls c hc).edit hce

/-- **What is emitted is what was validated, but for labels.**  All names and counts of a statement
were accepted, if the caller left the checks to the library.  Each of them is written as it was
checked, a name by its characters and a count by its digits, exactly if it stands in a list or shows
no label. -/
theorem emits_accepted {st : Statement} (hcalls : ∀ c ∈ calls, c.IsChecked catalog)
    (hq : runCalls catalog {} calls = .ok q) (hst : q.build catalog d = .ok st) :
    ∃ k, Kind.ofValue? q.kind = some k ∧ Piece.write d.style 1 (q.pieces k d) = .ok st.sql ∧
      Piece.words (q.pieces k d) = q.words k ∧
      ∀ p ∈ q.words k, p.IsAccepted ∧ (p.wording? = p.due? ↔ p.IsBare) := by
  obtain ⟨k, hk, hst⟩ := Result.bind_eq_ok.mp hst
  obtain ⟨sql, hsql, hst⟩ := Result.bind_eq_ok.mp hst
  cases hst
  obtain ⟨htable, -, hof⟩ := validate_eq_ok hk
  refine ⟨k, hof, hsql, q.words_pieces k d, fun p hp => ?_⟩
  have haccepted := (accepted_runCalls hcalls hq).words htable k p hp
  rw [← q.words_pieces k d] at hp
  exact ⟨haccepted, Piece.wording_eq_due_iff haccepted (List.mem_filter.mp hp).2⟩

/-- The calls for the first rows of one column, in its order. -/
def firstCalls (column count : Value) : List BuilderCall :=
  [.select (.list [column]) (.bool false), .fromTable (.argument (.value (.text "users"))),
    .orderBy column (.bool false), .limit count]

theorem firstCalls_isChecked (column count : Value) :
    ∀ c ∈ firstCalls column count, c.IsChecked .empty := by
  intro c hc
  simp only [firstCalls, List.mem_cons, List.not_mem_nil, or_false] at hc
  rcases hc with rfl | rfl | rfl | rfl <;> trivial

theorem emits_accepted_first : ∃ q st,
    runCalls .empty {} (firstCalls (.textConstant ⟨"E", "M"⟩ "name") (.int 3)) = .ok q ∧
      q.build .empty .sqlite = .ok st ∧
      ∀ p ∈ q.words .select, p.IsAccepted ∧ (p.wording? = p.due? ↔ p.IsBare) := by
  have hbuilt : (runCalls .empty {} (firstCalls (.textConstant ⟨"E", "M"⟩ "name") (.int 3)) >>=
      fun q => q.build .empty .sqlite).isOk = true := by
    decide +kernel
  obtain ⟨st, hst⟩ := Result.exists_eq_ok hbuilt
  obtain ⟨q, hq, hst⟩ := Result.bind_eq_ok.mp hst
  obtain ⟨k, hk, -, -, hwords⟩ := emits_accepted (firstCalls_isChecked _ _) hq hst
  have hselect : (runCalls .empty {} (firstCalls (.textConstant ⟨"E", "M"⟩ "name")
      (.int 3))).toOption.map (fun q => Kind.ofValue? q.kind) = some (some .select) := by
    decide +kernel
  rw [hq] at hselect
  obtain rfl : k = .select := Option.some.inj (hk.symm.trans (Option.some.inj hselect))
  exact ⟨q, st, hq, hst, hwords⟩

/-- A labelled name and a labelled count are shown under their labels in running text. -/
theorem emits_labels : ∃ q st,
    runCalls .empty {}
        (firstCalls (.textConstant ⟨"E", "M"⟩ "name") (.intConstant ⟨"E", "M"⟩ 3)) = .ok q ∧
      q.build .empty .sqlite = .ok st ∧
      st.sql = "SELECT name FROM users ORDER BY E.M ASC LIMIT E.M" ∧
      ¬ ∀ p ∈ q.words .select, p.wording? = p.due? := by
  have htext : (runCalls .empty {}
      (firstCalls (.textConstant ⟨"E", "M"⟩ "name") (.intConstant ⟨"E", "M"⟩ 3)) >>=
        fun q => q.build .empty .sqlite).toOption.map Statement.sql =
      some "SELECT name FROM users ORDER BY E.M ASC LIMIT E.M" := by
    decide +kernel
  have hwords : (runCalls .empty {}
      (firstCalls (.textConstant ⟨"E", "M"⟩ "name") (.intConstant ⟨"E", "M"⟩ 3))).toOption.map
        (fun q => decide ((q.words .select).map Piece.wording? =
          (q.words .select).map Piece.due?)) = some false := by
    decide +kernel
  cases hq : runCalls .empty {}
      (firstCalls (.textConstant ⟨"E", "M"⟩ "name") (.intConstant ⟨"E", "M"⟩ 3)) with
  | error e =>
    rw [hq] at hwords
    cases hwords
  | ok q =>
    rw [hq] at htext hwords
    obtain ⟨st, hst, hsql⟩ : ∃ st, q.build .empty .sqlite = .ok st ∧
        st.sql = "SELECT name FROM users ORDER BY E.M ASC LIMIT E.M" := by
      change (q.build .empty .sqlite).toOption.map Statement.sql = _ at htext
      cases hst : q.build .empty .sqlite with
      | error e =>
        rw [hst] at htext
        cases htext
      | ok st =>
        rw [hst] at htext
        exact ⟨st, rfl, Option.some.inj htext⟩
    refine ⟨q, st, rfl, hst, hsql, fun hall => ?_⟩
    have hdiffer := of_decide_eq_false (Option.some.inj hwords)
    exact hdiffer (List.map_congr_left hall)

end Query

end RelMap
