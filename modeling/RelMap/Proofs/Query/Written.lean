import RelMap.Persistence.Operations
import RelMap.Proofs.Query.Weaving

/-!
# What is written for a model

The statements that insert, update and look for a row of a model, word by word.  A style that is
known writes every piece, so the text of a statement follows from its pieces
(`Piece.write_append`), and a query on columns of its model passes all checks.

In a list a column stands under the characters of its name, elsewhere under its name as it is shown.
-/

namespace RelMap

/-! ## Statements -/

namespace Entity

/-- The insertion of a row with values in some columns. -/
def insertText (e : Entity) (style : ParamStyle) (columns : List Column) : String :=
  if columns.isEmpty then "INSERT INTO " ++ e.table.shown ++ " DEFAULT VALUES"
  else "INSERT INTO " ++ e.table.shown ++ " (" ++
    ", ".intercalate (columns.map fun c => c.name.text) ++ ") VALUES (" ++
    ", ".intercalate (style.marks 1 columns.length) ++ ")"

/-- The update of some columns in the row with a key. -/
def updateText (e : Entity) (style : ParamStyle) (key : Column) (columns : List Column) :
    String :=
  "UPDATE " ++ e.table.shown ++ " SET " ++
    ", ".intercalate ((columns.zip (style.marks 1 columns.length)).map fun p =>
      p.1.name.shown ++ " = " ++ p.2) ++
    " WHERE " ++ key.name.shown ++ " = " ++ style.markAt (columns.length + 1)

/-- The search for the row with a key. -/
def searchText (e : Entity) (style : ParamStyle) (key : Column) : String :=
  "SELECT " ++ key.name.text ++ " FROM " ++ e.table.shown ++
    " WHERE " ++ key.name.shown ++ " = " ++ style.markAt 1 ++ " LIMIT 1"

end Entity

/-- What makes a statement return some columns. -/
def returningText (columns : List Column) : String :=
  if columns.isEmpty then ""
  else " RETURNING " ++ ", ".intercalate (columns.map fun c => c.name.text)

/-! ## Pieces -/

namespace Piece

variable {style : ParamStyle}

theorem write_hole (hstyle : style.IsKnown) (first : Nat) (v : Value) (ps : List Piece) :
    write style first (hole v :: ps) =
      (write style (first + 1) ps).map (style.markAt first ++ ·) := by
  rw [write, ParamStyle.mark_eq_ok hstyle]
  rfl

/-- Things with one hole each are written in a list with the marks in their order. -/
theorem write_separated {α : Type} {group : α → List Piece} {text : α × String → String}
    (hgroup : ∀ x first ps, write style first (group x ++ ps) =
      (write style (first + 1) ps).map (text (x, style.markAt first) ++ ·))
    (first : Nat) (xs : List α) :
    write style first (separated ", " (xs.map group)) =
      .ok (", ".intercalate ((xs.zip (style.marks first xs.length)).map text)) := by
  induction xs generalizing first with
  | nil => rfl
  | cons x xs ih =>
    have hcomma : (fixed ", ").wording? = some ", " := rfl
    cases xs with
    | nil =>
      have hlast := hgroup x first []
      rw [List.append_nil] at hlast
      exact hlast.trans (congrArg Except.ok String.append_empty)
    | cons y ys =>
      change write style first (group x ++ fixed ", " :: separated ", " ((y :: ys).map group)) = _
      rw [hgroup, write_worded hcomma, ih]
      simp only [List.length_cons, ParamStyle.marks_succ, List.zip_cons_cons, List.map_cons,
        String.intercalate_cons_cons]
      exact congrArg Except.ok String.append_assoc.symm

theorem write_holes (hstyle : style.IsKnown) (first : Nat) (vs : List Value) :
    write style first (holeList vs) = .ok (", ".intercalate (style.marks first vs.length)) := by
  have hlength : (style.marks first vs.length).length ≤ vs.length :=
    Nat.le_of_eq (ParamStyle.length_marks first vs.length)
  have hholes : write style first (holeList vs) =
      .ok (", ".intercalate ((vs.zip (style.marks first vs.length)).map Prod.snd)) :=
    write_separated (fun v first ps => write_hole hstyle first v ps) first vs
  rw [List.map_snd_zip hlength] at hholes
  exact hholes

/-- The pieces of assignments to some columns. -/
def assignmentList (columns : List Column) (param : Column → Value) : List Piece :=
  separated ", " (columns.map fun c => [.name c.name.toValue, .fixed " = ", .hole (param c)])

theorem write_assignments (hstyle : style.IsKnown) (first : Nat) (columns : List Column)
    (param : Column → Value) :
    write style first (assignmentList columns param) =
      .ok (", ".intercalate ((columns.zip (style.marks first columns.length)).map fun p =>
        p.1.name.shown ++ " = " ++ p.2)) := by
  refine write_separated (fun c first ps => ?_) first columns
  have hname : (name c.name.toValue).wording? = some c.name.shown :=
    congrArg some c.name.display_toValue
  have hequals : (fixed " = ").wording? = some " = " := rfl
  simp only [List.cons_append, List.nil_append]
  rw [write_worded hname, write_worded hequals, write_hole hstyle]
  cases write style (first + 1) ps with
  | error e => rfl
  | ok s => simp only [Except.map, String.append_assoc]

theorem holes_assignments (columns : List Column) (param : Column → Value) :
    holes (assignmentList columns param) = columns.map param := by
  induction columns with
  | nil => rfl
  | cons c rest ih =>
    cases rest with
    | nil => rfl
    | cons c' rest => exact congrArg (param c :: ·) ih

theorem write_append_of_ok {first : Nat} {ps qs : List Piece} {a b : String}
    (h : write style first ps = .ok a) (h' : write style (first + (holes ps).length) qs = .ok b) :
    write style first (ps ++ qs) = .ok (a ++ b) := by
  rw [write_append, h]
  exact congrArg (Except.map (a ++ ·)) h'

theorem write_fixed (first : Nat) (x : String) : write style first [.fixed x] = .ok x :=
  congrArg Except.ok String.append_empty

theorem write_table (first : Nat) (before : String) (table : Name) (after : String) :
    write style first [.fixed before, .name table.toValue, .fixed after] =
      .ok (before ++ table.shown ++ after) := by
  have htable : (name table.toValue).wording? = some table.shown :=
    congrArg some table.display_toValue
  have hbefore : (fixed before).wording? = some before := rfl
  have hafter : (fixed after).wording? = some after := rfl
  rw [write_worded hbefore, write_worded htable, write_worded hafter]
  simp only [write, Except.map, String.append_empty, String.append_assoc]

end Piece

/-! ## Arguments -/

theorem Name.ofValue?_toValue (n : Name) : ofValue? n.toValue = some n := by
  obtain ⟨text, label⟩ := n
  cases label <;> rfl

theorem checkName_toValue {n : Name} (h : n.isIdentifier = true) (role : String) :
    checkName role n.toValue = .ok n :=
  checkName_eq_ok.mpr ⟨Name.ofValue?_toValue n, h⟩

namespace Query

open Piece

variable {catalog : Catalog} {d : Dialect} {m : ModelId} {e : Entity} {key : Column}
  {columns : List Column} {value param : Column → Value}

theorem columnName_toValue {n : Name} (h : n.isIdentifier = true) :
    columnName n.toValue = .ok n.toValue := by
  rw [columnName, checkName_toValue h]
  rfl

/-- The cells of a row with values in some columns. -/
def cellsOf (columns : List Column) (param : Column → Value) : List Cell :=
  columns.map fun c => (c.name.toValue, param c)

/-- The condition that a column has a value. -/
def equals (c : Column) (p : Value) : Condition :=
  { column := c.name.toValue, operator := .text "=", value := p }

theorem cell_of_column {c : Column} (hname : c.name.isIdentifier = true) (v : Value) :
    cell (c.name.toValue, v) = v.toParameter.map fun p => (c.name.toValue, p) := by
  unfold cell
  rw [columnName_toValue hname]
  cases v.toParameter <;> rfl

theorem cells_rowOfPairs (columns : List Column) (value : Column → Value) :
    cells (rowOfPairs (columns.map fun c => (c.name, value c))) =
      columns.mapM fun c => cell (c.name.toValue, value c) := by
  unfold cells rowOfPairs
  dsimp only
  rw [List.map_map, List.mapM_map]
  rfl

theorem cells_of_columns (hname : ∀ c ∈ columns, c.name.isIdentifier = true)
    (hparam : ∀ c ∈ columns, (value c).toParameter = .ok (param c)) :
    cells (rowOfPairs (columns.map fun c => (c.name, value c))) = .ok (cellsOf columns param) := by
  rw [cells_rowOfPairs]
  refine Result.mapM_eq_ok_map fun c hc => ?_
  rw [cell_of_column (hname c hc), hparam c hc]
  rfl

/-- A row with a value that is no parameter is refused. -/
theorem cells_eq_error {c : Column} {err : Error}
    (hname : ∀ c ∈ columns, c.name.isIdentifier = true) (hc : c ∈ columns)
    (hvalue : (value c).toParameter = .error err) :
    ∃ err', cells (rowOfPairs (columns.map fun c => (c.name, value c))) = .error err' := by
  rw [cells_rowOfPairs]
  refine Result.mapM_eq_error_of_mem hc (e := err) ?_
  rw [cell_of_column (hname c hc), hvalue]
  rfl

theorem isSequence_of_toParameter {v p : Value} (h : v.toParameter = .ok p) :
    (v.isSequence && !v.isScalarSequence) = false := by
  cases v with
  | list _ => cases h
  | tuple _ => cases h
  | range _ => cases h
  | _ => simp only [Value.isSequence, Bool.and_not_self]

theorem whereKey_eq (q : Query) (hname : key.name.isIdentifier = true) (v : Value) :
    q.whereKey key v = (Condition.ofOperator key.name.toValue "=" v).map fun c =>
      { q with conditions := q.conditions ++ [c] } := by
  have hmade : Condition.make key.name.toValue (.text "=") v =
      Condition.ofOperator key.name.toValue "=" v := by
    rw [Condition.make, checkName_toValue hname]
    rfl
  simp only [whereKey, whereColumn, hmade]
  cases Condition.ofOperator key.name.toValue "=" v <;> rfl

theorem whereKey_eq_ok (q : Query) {v p : Value} (hname : key.name.isIdentifier = true)
    (hv : v.toParameter = .ok p) :
    q.whereKey key v = .ok { q with conditions := q.conditions ++ [equals key p] } := by
  have hop : Condition.ofOperator key.name.toValue "=" v = .ok (equals key p) := by
    simp only [Condition.ofOperator, isSequence_of_toParameter hv, hv]
    rfl
  rw [whereKey_eq q hname, hop]
  rfl

/-- A key that is no parameter is refused. -/
theorem whereKey_eq_error (q : Query) {v : Value} {err : Error}
    (hname : key.name.isIdentifier = true) (hv : v.toParameter = .error err) :
    ∃ err', q.whereKey key v = .error err' := by
  rw [whereKey_eq q hname]
  simp only [Condition.ofOperator, hv]
  cases v.isSequence && !v.isScalarSequence
  · exact ⟨err, rfl⟩
  · exact ⟨_, rfl⟩

theorem target_model (he : catalog.entity m = .ok e) :
    target catalog (.model m) = .ok (e.table.toValue, some m) := by
  rw [target, he]
  rfl

/-! ## Queries -/

/-- The insertion of a row with values in some columns; it may return columns. -/
def ofInsert (m : ModelId) (e : Entity) (columns : List Column) (param : Column → Value)
    (returning : List Column) : Query where
  kind := Kind.insert.toValue
  table := e.table.toValue
  model := some m
  values := cellsOf columns param
  defaultValues := .bool columns.isEmpty
  returning := (returning.map Column.name).map Name.toValue

/-- The update of some columns in the row with a key. -/
def ofUpdate (m : ModelId) (e : Entity) (columns : List Column) (param : Column → Value)
    (key : Column) : Query where
  kind := Kind.update.toValue
  table := e.table.toValue
  model := some m
  assignments := cellsOf columns param
  conditions := [equals key (param key)]

/-- The search for the row with a key. -/
def ofSearch (m : ModelId) (e : Entity) (param : Column → Value) (key : Column) : Query where
  kind := Kind.select.toValue
  table := e.table.toValue
  model := some m
  columns := [key.name.toValue]
  conditions := [equals key (param key)]
  limit := .int 1

theorem insert_of_columns (he : catalog.entity m = .ok e)
    (hname : ∀ c ∈ columns, c.name.isIdentifier = true)
    (hparam : ∀ c ∈ columns, (value c).toParameter = .ok (param c)) (hne : columns ≠ []) :
    Query.insert {} catalog (.model m) (rowOfPairs (columns.map fun c => (c.name, value c))) =
      .ok (ofInsert m e columns param []) := by
  have hgiven : columns.isEmpty = false := by
    cases columns with
    | nil => exact (hne rfl).elim
    | cons c rest => rfl
  rw [Query.insert, cells_of_columns hname hparam, target_model he, ofInsert, hgiven]
  rfl

theorem update_of_columns (he : catalog.entity m = .ok e)
    (hname : ∀ c ∈ columns, c.name.isIdentifier = true)
    (hparam : ∀ c ∈ columns, (value c).toParameter = .ok (param c))
    (hkey : key.name.isIdentifier = true) (hkeyed : (value key).toParameter = .ok (param key)) :
    (Query.update {} catalog (.model m) (rowOfPairs (columns.map fun c => (c.name, value c))) >>=
      fun q => q.whereKey key (value key)) = .ok (ofUpdate m e columns param key) := by
  rw [Query.update, cells_of_columns hname hparam, target_model he]
  exact whereKey_eq_ok _ hkey hkeyed

theorem search_of_key (he : catalog.entity m = .ok e) (hkey : key.name.isIdentifier = true)
    (hkeyed : (value key).toParameter = .ok (param key)) :
    (Query.select {} (.list [key.name.toValue]) >>= fun q =>
      q.fromTable catalog (.model m) >>= fun q =>
        q.whereKey key (value key) >>= Query.limitOne) = .ok (ofSearch m e param key) := by
  have hselected : projection (.list [key.name.toValue]) = .ok [key.name.toValue] := by
    change [key.name.toValue].mapM columnName = _
    exact Result.mapM_cons_eq_ok.mpr ⟨_, [], columnName_toValue hkey, List.mapM_nil, rfl⟩
  rw [Query.select, hselected]
  change (Query.fromTable _ catalog (.model m) >>= _) = _
  rw [fromTable, target_model he]
  change (Query.whereKey _ key (value key) >>= _) = _
  rw [whereKey_eq_ok _ hkey hkeyed]
  rfl

/-- A query on columns of its model passes the checks if its parts do. -/
theorem validate_on_model {q : Query} {k : Kind} (he : catalog.entity m = .ok e)
    (hkind : q.kind = k.toValue) (htable : q.table = e.table.toValue) (hmodel : q.model = some m)
    (hparts : q.validateParts k = .ok ())
    (hreturning : (!q.returning.isEmpty && !d.returning.truthy) = false)
    (hmentioned : ∀ v ∈ q.mentioned, ∃ c ∈ e.columns, v = c.name.toValue) :
    q.validate catalog d = .ok k := by
  have hnames : q.validateColumns e = .ok () := by
    refine Result.forM_eq_ok fun v hv => ?_
    obtain ⟨c, hc, rfl⟩ := hmentioned v hv
    have hcontains : e.columnNames.contains c.name.text = true :=
      List.contains_iff_mem.mpr (List.mem_map_of_mem hc)
    simp only [checkMention, names, Name.textOf?_toValue, hcontains, if_true]
  have hkinds : q.kind.isNull = false ∧ Kind.ofValue? q.kind = some k := by
    rw [hkind]
    cases k <;> exact ⟨rfl, rfl⟩
  have hset : q.table.isNull = false := by
    rw [htable, Name.toValue]
    split <;> rfl
  simp only [validate, hkinds, hset, hmodel, hreturning, he, Bool.false_eq_true, if_false]
  rw [hparts]
  change (q.validateColumns e >>= fun _ => .ok k) = .ok k
  rw [hnames]
  rfl

theorem build_eq_ok {q : Query} {k : Kind} {sql : String} (hvalid : q.validate catalog d = .ok k)
    (hwritten : write d.style 1 (q.pieces k d) = .ok sql) :
    q.build catalog d = .ok ⟨sql, holes (q.pieces k d)⟩ :=
  Result.bind_eq_ok.mpr ⟨k, hvalid, Result.bind_eq_ok.mpr ⟨sql, hwritten, rfl⟩⟩

theorem cellsOf_fst (columns : List Column) (param : Column → Value) :
    (cellsOf columns param).map Prod.fst = (columns.map Column.name).map Name.toValue := by
  rw [cellsOf, List.map_map, List.map_map]
  rfl

theorem cellsOf_snd (columns : List Column) (param : Column → Value) :
    (cellsOf columns param).map Prod.snd = columns.map param := by
  rw [cellsOf, List.map_map]
  rfl

theorem map_text (columns : List Column) :
    (columns.map Column.name).map Name.text = columns.map fun c => c.name.text := by
  rw [List.map_map]
  rfl

theorem mem_names {columns : List Column} {v : Value}
    (h : v ∈ (columns.map Column.name).map Name.toValue) : ∃ c ∈ columns, v = c.name.toValue := by
  rw [List.map_map] at h
  obtain ⟨c, hc, rfl⟩ := List.mem_map.mp h
  exact ⟨c, hc, rfl⟩

/-! ### Insertions -/

theorem write_insertPieces (hstyle : d.style.IsKnown) (m : ModelId) (e : Entity)
    (columns : List Column) (param : Column → Value) (returning : List Column) :
    write d.style 1 (ofInsert m e columns param returning).insertPieces =
        .ok (e.insertText d.style columns) ∧
      holes (ofInsert m e columns param returning).insertPieces = columns.map param := by
  unfold insertPieces Entity.insertText
  cases columns with
  | nil => exact ⟨write_table 1 _ _ _, rfl⟩
  | cons c rest =>
    have hcells : (ofInsert m e (c :: rest) param returning).values =
        cellsOf (c :: rest) param := rfl
    have hgiven : (ofInsert m e (c :: rest) param returning).defaultValues.truthy = false := rfl
    simp only [hgiven, hcells, cellsOf_fst, cellsOf_snd, Bool.false_eq_true, if_false,
      List.isEmpty_cons]
    generalize c :: rest = columns
    constructor
    · have hlead : holes ([.fixed "INSERT INTO ", .name e.table.toValue, .fixed " ("] ++
          nameList ((columns.map Column.name).map Name.toValue) ++ [.fixed ") VALUES ("]) = [] := by
        simp only [holes_append, holes_nameList]
        rfl
      have hmarks := write_holes hstyle 1 (columns.map param)
      rw [List.length_map] at hmarks
      rw [← map_text]
      refine write_append_of_ok (write_append_of_ok (write_append_of_ok (write_append_of_ok
        (write_table 1 _ _ _) (write_nameList _ _)) (write_fixed _ _)) ?_) (write_fixed _ _)
      exact (congrArg (fun vs => write d.style (1 + vs.length) _) hlead).trans hmarks
    · simp only [holes_append, holes_nameList, holes_holeList, List.append_nil]
      exact List.append_nil _

theorem write_returningPieces (first : Nat) (m : ModelId) (e : Entity) (columns : List Column)
    (param : Column → Value) (returning : List Column) :
    write d.style first (ofInsert m e columns param returning).returningPieces =
        .ok (returningText returning) ∧
      holes (ofInsert m e columns param returning).returningPieces = [] := by
  cases returning with
  | nil => exact ⟨rfl, rfl⟩
  | cons c rest =>
    have hreturning : (fixed " RETURNING ").wording? = some " RETURNING " := rfl
    constructor
    · change write d.style first (fixed " RETURNING " ::
        nameList (((c :: rest).map Column.name).map Name.toValue)) = _
      rw [write_worded hreturning, write_nameList, map_text]
      rfl
    · exact holes_nameList _

/-- **An insertion is written** with its columns in order and a mark for each of them. -/
theorem build_ofInsert (he : catalog.entity m = .ok e) (hstyle : d.style.IsKnown)
    (hcolumns : ∀ c ∈ columns, c ∈ e.columns) {returning : List Column}
    (hreturned : ∀ c ∈ returning, c ∈ e.columns)
    (hreturns : returning ≠ [] → d.returning.truthy = true) :
    (ofInsert m e columns param returning).build catalog d =
      .ok ⟨e.insertText d.style columns ++ returningText returning, columns.map param⟩ := by
  have hvalid : (ofInsert m e columns param returning).validate catalog d = .ok .insert := by
    refine validate_on_model he rfl rfl rfl ?_ ?_ ?_
    · cases columns <;> rfl
    · cases returning with
      | nil => rfl
      | cons c rest =>
        rw [hreturns (List.cons_ne_nil c rest)]
        rfl
    · intro v hv
      simp only [mentioned, ofInsert, List.filter_nil, List.map_nil, List.nil_append,
        List.append_nil] at hv
      rcases List.mem_append.mp hv with hv | hv
      · rw [cellsOf_fst] at hv
        obtain ⟨c, hc, rfl⟩ := mem_names hv
        exact ⟨c, hcolumns c hc, rfl⟩
      · obtain ⟨c, hc, rfl⟩ := mem_names hv
        exact ⟨c, hreturned c hc, rfl⟩
  obtain ⟨hlead, hholes⟩ := write_insertPieces hstyle m e columns param returning
  obtain ⟨htail, hnone⟩ := write_returningPieces (d := d) _ m e columns param returning
  rw [build_eq_ok hvalid (write_append_of_ok hlead htail)]
  change Except.ok (Statement.mk _ (holes (insertPieces _ ++ returningPieces _))) = _
  rw [holes_append, hholes, hnone, List.append_nil]

/-! ### Statements on the row with a key -/

/-- The condition on a key is written with one mark. -/
theorem write_wherePieces (hstyle : d.style.IsKnown) (first : Nat) {q : Query} {p : Value}
    (hq : q.conditions = [equals key p]) :
    write d.style first q.wherePieces =
        .ok (" WHERE " ++ key.name.shown ++ " = " ++ d.style.markAt first) ∧
      holes q.wherePieces = [p] := by
  have hpieces : q.wherePieces =
      [.fixed " WHERE ", .name key.name.toValue, .fixed " ", .operator (.text "="), .fixed " ",
        .hole p] := by
    rw [wherePieces, hq]
    rfl
  have hshown := key.name.display_toValue
  have hop : (Value.text "=").display = "=" := rfl
  have hspaced : " = " = " " ++ ("=" ++ " ") := by decide
  rw [hpieces]
  constructor
  · simp only [write, ParamStyle.mark_eq_ok hstyle, hshown, hop]
    simp only [bind, Except.bind, Except.map, String.append_assoc, String.append_empty, hspaced]
  · rfl

theorem write_updatePieces (hstyle : d.style.IsKnown) (m : ModelId) (e : Entity)
    (columns : List Column) (param : Column → Value) (key : Column) :
    write d.style 1 (ofUpdate m e columns param key).updatePieces =
        .ok (e.updateText d.style key columns) ∧
      holes (ofUpdate m e columns param key).updatePieces = columns.map param ++ [param key] := by
  obtain ⟨hwhere, hkeyed⟩ := write_wherePieces hstyle (columns.length + 1)
    (q := ofUpdate m e columns param key) rfl
  have hpieces : (ofUpdate m e columns param key).updatePieces =
      [.fixed "UPDATE ", .name e.table.toValue, .fixed " SET "] ++ assignmentList columns param ++
        (ofUpdate m e columns param key).wherePieces := by
    simp only [updatePieces, assignmentList, ofUpdate, cellsOf, List.map_map]
    rfl
  have hholes : holes ([.fixed "UPDATE ", .name e.table.toValue, .fixed " SET "] ++
      assignmentList columns param) = columns.map param := by
    rw [holes_append, holes_assignments]
    rfl
  rw [hpieces]
  constructor
  · have hlead := write_append_of_ok (write_table 1 "UPDATE " e.table " SET ")
      (write_assignments hstyle 1 columns param)
    have hlength : 1 + (columns.map param).length = columns.length + 1 := by
      rw [List.length_map, Nat.add_comm]
    rw [← hlength, ← hholes] at hwhere
    rw [write_append_of_ok hlead hwhere, hholes, hlength]
    unfold Entity.updateText
    simp only [String.append_assoc]
  · rw [holes_append, hholes, hkeyed]

/-- **An update is written** with its columns in order and the key behind them. -/
theorem build_ofUpdate (he : catalog.entity m = .ok e) (hstyle : d.style.IsKnown)
    (hcolumns : ∀ c ∈ columns, c ∈ e.columns) (hkey : key ∈ e.columns) (hne : columns ≠ []) :
    (ofUpdate m e columns param key).build catalog d =
      .ok ⟨e.updateText d.style key columns, columns.map param ++ [param key]⟩ := by
  have hvalid : (ofUpdate m e columns param key).validate catalog d = .ok .update := by
    refine validate_on_model he rfl rfl rfl ?_ rfl ?_
    · cases columns with
      | nil => exact (hne rfl).elim
      | cons c rest => rfl
    · intro v hv
      simp only [mentioned, ofUpdate, List.filter_nil, List.map_nil, List.nil_append,
        List.append_nil] at hv
      rcases List.mem_append.mp hv with hv | hv
      · rw [cellsOf_fst] at hv
        obtain ⟨c, hc, rfl⟩ := mem_names hv
        exact ⟨c, hcolumns c hc, rfl⟩
      · exact ⟨key, hkey, List.mem_singleton.mp hv⟩
  have hpieces : (ofUpdate m e columns param key).pieces .update d =
      (ofUpdate m e columns param key).updatePieces := List.append_nil _
  obtain ⟨hwritten, hholes⟩ := write_updatePieces hstyle m e columns param key
  rw [← hpieces] at hwritten hholes
  rw [build_eq_ok hvalid hwritten, hholes]

theorem write_selectPieces (hstyle : d.style.IsKnown) (m : ModelId) (e : Entity)
    (param : Column → Value) (key : Column) :
    write d.style 1 ((ofSearch m e param key).selectPieces d) =
        .ok (e.searchText d.style key) ∧
      holes ((ofSearch m e param key).selectPieces d) = [param key] := by
  obtain ⟨hwhere, hkeyed⟩ := write_wherePieces hstyle 1 (q := ofSearch m e param key) rfl
  have hpieces : (ofSearch m e param key).selectPieces d =
      [.fixed "SELECT ", .listed key.name.toValue, .fixed " FROM ", .name e.table.toValue] ++
        (ofSearch m e param key).wherePieces ++ [.fixed " LIMIT ", .number (.int 1)] := by
    rfl
  have hlead : write d.style 1
      [.fixed "SELECT ", .listed key.name.toValue, .fixed " FROM ", .name e.table.toValue] =
      .ok ("SELECT " ++ key.name.text ++ " FROM " ++ e.table.shown) := by
    simp only [write, Name.textOf?_toValue, Name.display_toValue, Except.map,
      String.append_assoc, String.append_empty]
  have hlimit : ∀ first, write d.style first [.fixed " LIMIT ", .number (.int 1)] =
      .ok " LIMIT 1" := fun _ => rfl
  rw [hpieces]
  constructor
  · rw [write_append_of_ok (write_append_of_ok hlead hwhere) (hlimit _)]
    unfold Entity.searchText
    simp only [String.append_assoc]
  · rw [holes_append, holes_append, hkeyed]
    rfl

/-- **A search is written** with the key as its only column. -/
theorem build_ofSearch (he : catalog.entity m = .ok e) (hstyle : d.style.IsKnown)
    (hkey : key ∈ e.columns) :
    (ofSearch m e param key).build catalog d = .ok ⟨e.searchText d.style key, [param key]⟩ := by
  have hvalid : (ofSearch m e param key).validate catalog d = .ok .select := by
    refine validate_on_model he rfl rfl rfl rfl rfl ?_
    intro v hv
    simp only [mentioned, ofSearch, List.map_nil, List.append_nil] at hv
    rcases List.mem_append.mp hv with hv | hv
    · exact ⟨key, hkey, List.mem_singleton.mp (List.mem_filter.mp hv).1⟩
    · exact ⟨key, hkey, List.mem_singleton.mp hv⟩
  have hpieces : (ofSearch m e param key).pieces .select d =
      (ofSearch m e param key).selectPieces d := List.append_nil _
  obtain ⟨hwritten, hholes⟩ := write_selectPieces (d := d) hstyle m e param key
  rw [← hpieces] at hwritten hholes
  rw [build_eq_ok hvalid hwritten, hholes]

end Query

end RelMap
