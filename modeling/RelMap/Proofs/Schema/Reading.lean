import RelMap.Proofs.Persistence.Saving
import RelMap.Proofs.Query.Reader
import RelMap.Schema

/-!
# Table definitions are read back

What the statement that creates a table tells of it (`TableFacts`): its name, whether it may be
there already and, for each column, the name, the type, the length of a `VARCHAR`, and either that
it is the key or which constraints it has.  All of this is read back off the text in the dialect
that it was written in (`TableFacts.ofText?`), so tables that differ in it are never created by one
text.
-/

namespace RelMap

/-! ## What a definition tells -/

/-- The key, or a column that may be absent or not and repeat or not. -/
inductive ColumnRole where
  | key
  | plain (nullable unique : Bool)
deriving DecidableEq, Repr

structure ColumnFacts where
  name : String
  type : SqlType
  /-- The length of a `VARCHAR`. -/
  length : Option Nat
  role : ColumnRole
deriving DecidableEq, Repr

structure TableFacts where
  name : String
  ifAbsent : Bool
  columns : List ColumnFacts
deriving DecidableEq, Repr

namespace Column

def role (c : Column) : ColumnRole :=
  if c.isKey.truthy then .key else .plain c.nullable.truthy c.unique.truthy

/-- The length of a `VARCHAR` column, if it is a natural number. -/
def varcharLength? (c : Column) : Option Nat :=
  match c.type, c.length with
  | .varchar, .int n => some n.toNat
  | _, _ => none

def facts (c : Column) : ColumnFacts := ⟨c.name.text, c.type, c.varcharLength?, c.role⟩

/-- The type of a column as its definition in a dialect has it. -/
def typeText (c : Column) (d : Dialect) : String :=
  if c.isKey.truthy && c.type = .integer then d.serialType else d.columnType c

end Column

def Entity.facts (e : Entity) (ifAbsent : Bool) : TableFacts :=
  ⟨e.table.text, ifAbsent, e.columns.map Column.facts⟩

/-! ## Readers -/

namespace Reader

variable {α : Type}

/-- One of some phrases, each with what it stands for. -/
def oneOf (entries : List (String × α)) : Reader α := fun u =>
  (entries.find? fun e => e.1.toList.isPrefixOf u.text).map fun e =>
    (e.2, { u with text := u.text.drop e.1.toList.length })

def natural : Reader Nat := do
  let s ← word
  if s.toList.all Char.isDigit then pure (Nat.ofDigitChars 10 s.toList 0) else failure

def columnRole : Reader ColumnRole :=
  after " PRIMARY KEY" (pure .key) do
    let nullable ← after " NOT NULL" (pure false) (pure true)
    let unique ← after " UNIQUE" (pure true) (pure false)
    pure (.plain nullable unique)

/-- The names of column types in a dialect, and that of its numbered keys. -/
def typePhrases (d : Dialect) : List (String × SqlType) :=
  (d.serialType, .integer) ::
    (SqlType.all.filter (· ≠ .varchar)).map fun t => (d.typeName t, t)

def columnType (d : Dialect) : Reader (SqlType × Option Nat) :=
  after "VARCHAR("
    (do
      let n ← natural
      phrase ")"
      pure (.varchar, some n))
    (do
      let t ← oneOf (typePhrases d)
      pure (t, none))

def columnFacts (d : Dialect) : Reader ColumnFacts := do
  let name ← word
  phrase " "
  let t ← columnType d
  let role ← columnRole
  pure ⟨name, t.1, t.2, role⟩

/-- A table behind the words that create it. -/
def tableBody (d : Dialect) (ifAbsent : Bool) (name : String) : Reader TableFacts := do
  phrase " (\n  "
  let columns ← listOf ",\n  " (columnFacts d)
  phrase "\n)"
  pure ⟨name, ifAbsent, columns⟩

def tableFacts (d : Dialect) : Reader TableFacts := do
  phrase "CREATE TABLE "
  let first ← word
  after " NOT EXISTS "
    (do
      let name ← word
      tableBody d true name)
    (tableBody d false first)

end Reader

/-- What the text that creates a table tells of it. -/
def TableFacts.ofText? (d : Dialect) (sql : String) : Option TableFacts :=
  match Reader.tableFacts d ⟨sql.toList, []⟩ with
  | some (t, ⟨[], []⟩) => some t
  | _ => none

/-! ## Pieces of a definition -/

namespace Column

def typePieces (c : Column) (d : Dialect) : List Piece :=
  match c.varcharLength? with
  | some n => [.fixed "VARCHAR(", .fixed (toString n), .fixed ")"]
  | none => [.fixed (c.typeText d)]

def rolePieces (c : Column) : List Piece := c.constraints.map fun s => .fixed (" " ++ s)

def definitionPieces (c : Column) (d : Dialect) : List Piece :=
  .fixed c.name.text :: .fixed " " :: (c.typePieces d ++ c.rolePieces)

end Column

def Entity.tablePieces (e : Entity) (d : Dialect) (ifAbsent : Bool) : List Piece :=
  (if ifAbsent then [.fixed "CREATE TABLE ", .fixed "IF", .fixed " NOT EXISTS "]
    else [.fixed "CREATE TABLE "]) ++
    .fixed e.table.text :: .fixed " (\n  " ::
      (Piece.separated ",\n  " (e.columns.map fun c => c.definitionPieces d) ++ [.fixed "\n)"])

namespace Reader.Reads

variable {style : ParamStyle} {α : Type}

/-- A phrase that no other begins with, and that begins no other, is found. -/
theorem oneOf {entries : List (String × α)} {x : String} {a : α} (hmem : (x, a) ∈ entries)
    (hapart : ∀ e ∈ entries, e.1.toList <+: x.toList ∨ x.toList <+: e.1.toList → e = (x, a)) :
    Reads style (Reader.oneOf entries) [.fixed x] a fun _ => True := by
  intro first s text params hs _
  obtain ⟨t, ht, rfl⟩ := Piece.write_worded_eq_ok rfl hs
  cases ht
  have hfind : (entries.find? fun e => e.1.toList.isPrefixOf (x.toList ++ text)) =
      some (x, a) := by
    cases hfound : entries.find? fun e => e.1.toList.isPrefixOf (x.toList ++ text) with
    | none =>
      have hnone := List.find?_eq_none.mp hfound _ hmem
      simp at hnone
    | some e =>
      have hbegins := List.find?_some hfound
      rw [List.isPrefixOf_iff_prefix] at hbegins
      rw [hapart e (List.mem_of_find?_eq_some hfound)
        (List.prefix_or_prefix_of_prefix hbegins (List.prefix_append x.toList text))]
  rw [String.append_empty]
  simp only [Reader.oneOf, hfind, Option.map_some, List.drop_left]
  rfl

theorem natural (n : Nat) : Reads style Reader.natural [.fixed (toString n)] n EndsWord := by
  have hdigits : (toString n).toList.all Char.isDigit = true :=
    List.all_eq_true.mpr (isDigit_toString n)
  have hvalue : Nat.ofDigitChars 10 (toString n).toList 0 = n := by
    rw [show (toString n).toList = Nat.toDigits 10 n from Nat.toList_repr,
      Nat.ofDigitChars_ten_toDigits]
  refine (word rfl fun c hc => isWordChar_of_isDigit (isDigit_toString n c hc)).bind ?_
    (leads_nil fun _ h => h)
  rw [if_pos hdigits, hvalue]
  exact .pure _

/-- The text does not go on with a space. -/
def NoSpace (text : List Char) : Prop := text.head? ≠ some ' '

theorem NoSpace.not_prefix {text : List Char} (h : NoSpace text) {s : String}
    (hs : s.toList.head? = some ' ') : ¬ s.toList <+: text := by
  rintro ⟨rest, rfl⟩
  obtain ⟨cs, hcs⟩ := List.head?_eq_some_iff.mp hs
  exact h (by rw [hcs]; rfl)

/-- A phrase that may be left out is passed by where neither it nor what follows begins with
another. -/
theorem leads_optional {b : Bool} {s x : String} (h : Apart s x) {F : List Char → Prop}
    (hF : ∀ text, F text → ¬ s.toList <+: text) :
    Leads style (if b then [] else [.fixed x]) (fun text => ¬ s.toList <+: text) F := by
  cases b with
  | true => exact leads_nil hF
  | false => exact leads_fixed h.not_prefix []

theorem columnRole (c : Column) : Reads style Reader.columnRole c.rolePieces c.role NoSpace := by
  unfold Column.rolePieces Column.constraints Column.role
  cases hkey : c.isKey.truthy with
  | true => exact .after (.pure _)
  | false =>
    have hpieces : (((if c.nullable.truthy then [] else ["NOT NULL"]) ++
        (if c.unique.truthy then ["UNIQUE"] else [])).map fun s => Piece.fixed (" " ++ s)) =
        (if c.nullable.truthy then [] else [.fixed " NOT NULL"]) ++
          (if !c.unique.truthy then [] else [.fixed " UNIQUE"]) := by
      cases c.nullable.truthy <;> cases c.unique.truthy <;> rfl
    have hnullable : Reads style (Reader.after " NOT NULL" (Pure.pure false) (Pure.pure true))
        (if c.nullable.truthy then [] else [.fixed " NOT NULL"]) c.nullable.truthy
        fun text => ¬ " NOT NULL".toList <+: text := by
      cases c.nullable.truthy with
      | true => exact (Reads.pure true).otherwise (leads_nil fun _ h => h)
      | false => exact .after (.pure false)
    have hunique : Reads style (Reader.after " UNIQUE" (Pure.pure true) (Pure.pure false))
        (if !c.unique.truthy then [] else [.fixed " UNIQUE"]) c.unique.truthy NoSpace := by
      cases c.unique.truthy with
      | true => exact .after (.pure true)
      | false => exact (Reads.pure false).otherwise (leads_nil fun _ h => h.not_prefix rfl)
    have hnext : ∀ s : String, s.toList.head? = some ' ' → Apart s " UNIQUE" →
        Leads style (if !c.unique.truthy then [] else [.fixed " UNIQUE"])
          (fun text => ¬ s.toList <+: text) NoSpace :=
      fun s hs h => leads_optional h fun _ htext => htext.not_prefix hs
    have hplain := hnullable.bind (f := fun nullable =>
      Reader.after " UNIQUE" (Pure.pure true) (Pure.pure false) >>= fun unique =>
        Pure.pure (ColumnRole.plain nullable unique))
      hunique.map (hnext " NOT NULL" rfl (by decide))
    rw [if_neg Bool.false_ne_true, if_neg Bool.false_ne_true, hpieces]
    exact hplain.otherwise ((leads_optional (by decide) fun _ h => h).append
      (hnext " PRIMARY KEY" rfl (by decide)))

/-- The name of a type that has no length is found among all of them, in each dialect. -/
theorem typePhrases_apart : ∀ d ∈ Dialect.builtin,
    ∀ e ∈ typePhrases d, Apart "VARCHAR(" e.1 ∧
      ∀ e' ∈ typePhrases d, e'.1.toList <+: e.1.toList ∨ e.1.toList <+: e'.1.toList → e' = e := by
  decide +kernel

theorem mem_typePhrases (d : Dialect) {c : Column} (htype : c.type ≠ .varchar) :
    (c.typeText d, c.type) ∈ typePhrases d := by
  unfold Column.typeText typePhrases
  split
  · next hserial =>
    rw [Bool.and_eq_true, decide_eq_true_eq] at hserial
    rw [hserial.2]
    exact List.mem_cons_self
  · refine List.mem_cons_of_mem _ (List.mem_map.mpr ⟨c.type, ?_, ?_⟩)
    · exact List.mem_filter.mpr ⟨SqlType.mem_all _, decide_eq_true htype⟩
    · rw [Dialect.columnType, if_neg htype]

theorem columnType {d : Dialect} (hd : d ∈ Dialect.builtin) (c : Column)
    (hlength : c.type = .varchar → ∃ n : Nat, c.length = .int n) :
    Reads style (Reader.columnType d) (c.typePieces d) (c.type, c.varcharLength?)
      fun _ => True := by
  by_cases htype : c.type = .varchar
  · obtain ⟨n, hn⟩ := hlength htype
    have hvarchar : c.varcharLength? = some n := by
      simp [Column.varcharLength?, htype, hn]
    rw [Column.typePieces, hvarchar, htype]
    refine .after ((natural n).bind (.phrase (.pure _)) ?_)
    exact leads_fixed (fun _ => rfl) _
  · have hnone : c.varcharLength? = none := by
      unfold Column.varcharLength?
      split
      · next h _ => exact (htype h).elim
      · rfl
    have hmem := mem_typePhrases d htype
    obtain ⟨hvarchar, hapart⟩ := typePhrases_apart d hd _ hmem
    rw [Column.typePieces, hnone]
    exact ((oneOf hmem hapart).map (f := fun t => (t, none))).elsewhere hvarchar

theorem columnFacts {d : Dialect} (hd : d ∈ Dialect.builtin) {c : Column}
    (hname : c.name.isIdentifier = true)
    (hlength : c.type = .varchar → ∃ n : Nat, c.length = .int n) :
    Reads style (Reader.columnFacts d) (c.definitionPieces d) c.facts NoSpace := by
  have hword : ∀ x ∈ c.name.text.toList, isWordChar x = true := fun x hx =>
    isWordChar_of_isNameChar (Identifier.isNameChar_of_isIdentifier hname x hx)
  have hread : Reads style
      (Reader.columnType d >>= fun t => Reader.columnRole >>= fun role =>
        Pure.pure (ColumnFacts.mk c.name.text t.1 t.2 role))
      (c.typePieces d ++ c.rolePieces) c.facts NoSpace :=
    (columnType hd c hlength).bind (columnRole c).map fun _ _ _ _ _ => trivial
  exact (word rfl hword).bind (.phrase hread) (leads_fixed (fun _ => rfl) _)

/-- The columns of a table are read back one after the other. -/
theorem tableBody {d : Dialect} (hd : d ∈ Dialect.builtin) {columns : List Column}
    (hsome : columns ≠ []) (hnames : ∀ c ∈ columns, c.name.isIdentifier = true)
    (hlength : ∀ c ∈ columns, c.type = .varchar → ∃ n : Nat, c.length = .int n)
    (ifAbsent : Bool) (name : String) :
    Reads style (Reader.tableBody d ifAbsent name)
      (.fixed " (\n  " :: (Piece.separated ",\n  " (columns.map fun c => c.definitionPieces d) ++
        [.fixed "\n)"]))
      ⟨name, ifAbsent, columns.map Column.facts⟩ fun _ => True := by
  have hcolumns : Reads style (Reader.listOf ",\n  " (Reader.columnFacts d))
      (Piece.separated ",\n  " (columns.map fun c => c.definitionPieces d))
      (columns.map Column.facts) fun text => NoSpace text ∧ ¬ ",\n  ".toList <+: text :=
    listOf (fun c hc => columnFacts hd (hnames c hc) (hlength c hc)) (fun _ => by simp [NoSpace])
      (by decide) hsome
  have happart : Apart ",\n  " "\n)" := by decide
  refine .phrase (hcolumns.bind (.phrase (.pure _)) (leads_fixed (fun text => ⟨?_, ?_⟩) []))
  · simp [NoSpace]
  · exact happart.not_prefix text

/-- A table definition is read back off its pieces. -/
theorem tableFacts {d : Dialect} (hd : d ∈ Dialect.builtin) {e : Entity} (hsome : e.columns ≠ [])
    (htable : e.table.isIdentifier = true) (hnames : ∀ c ∈ e.columns, c.name.isIdentifier = true)
    (hlength : ∀ c ∈ e.columns, c.type = .varchar → ∃ n : Nat, c.length = .int n)
    (ifAbsent : Bool) :
    Reads style (Reader.tableFacts d) (e.tablePieces d ifAbsent) (e.facts ifAbsent)
      fun _ => True := by
  have hword : ∀ x ∈ e.table.text.toList, isWordChar x = true := fun x hx =>
    isWordChar_of_isNameChar (Identifier.isNameChar_of_isIdentifier htable x hx)
  unfold Entity.tablePieces
  cases ifAbsent with
  | true =>
    have hif : ∀ x ∈ "IF".toList, isWordChar x = true := List.all_eq_true.mp (by decide)
    exact .phrase ((word rfl hif).bind (.after ((word rfl hword).bind
      (tableBody hd hsome hnames hlength true e.table.text) (leads_fixed (fun _ => rfl) _)))
      (leads_fixed (fun _ => rfl) _))
  | false =>
    exact .phrase ((word rfl hword).bind
      (elsewhere (tableBody hd hsome hnames hlength false e.table.text) (by decide))
      (leads_fixed (fun _ => rfl) _))

end Reader.Reads

/-! ## The pieces are the text -/

namespace Piece

variable {style : ParamStyle}

/-- Things that are written without marks are written in a list with separators between. -/
theorem write_joined {α : Type} {group : α → List Piece} {text : α → String} {xs : List α}
    (sep : String) (h : ∀ x ∈ xs, ∀ first, write style first (group x) = .ok (text x))
    (first : Nat) : write style first (separated sep (xs.map group)) =
      .ok (sep.intercalate (xs.map text)) := by
  induction xs generalizing first with
  | nil => rfl
  | cons x xs ih =>
    rw [List.forall_mem_cons] at h
    cases xs with
    | nil => exact h.1 first
    | cons y ys =>
      change write style first (group x ++ fixed sep :: separated sep ((y :: ys).map group)) = _
      have hsep : (fixed sep).wording? = some sep := rfl
      have hrest : ∀ first, write style first (fixed sep :: separated sep ((y :: ys).map group)) =
          .ok (sep ++ sep.intercalate ((y :: ys).map text)) := by
        intro first
        rw [write_worded hsep, ih h.2]
        rfl
      rw [write_append_of_ok (h.1 first) (hrest _)]
      simp only [List.map_cons, String.intercalate_cons_cons, String.append_assoc]

theorem intercalate_append_cons (sep s w : String) (ws : List String) :
    sep.intercalate ((s ++ w) :: ws) = s ++ sep.intercalate (w :: ws) := by
  cases ws with
  | nil => rfl
  | cons x xs => simp only [String.intercalate_cons_cons, String.append_assoc]

/-- Words behind spaces are written as words with spaces between. -/
theorem write_spaced (first : Nat) (w : String) (ws : List String) :
    write style first (fixed w :: ws.map fun s => fixed (" " ++ s)) =
      .ok (" ".intercalate (w :: ws)) := by
  induction ws generalizing w with
  | nil => exact write_fixed first w
  | cons x ws ih =>
    have hword : (fixed w).wording? = some w := rfl
    rw [List.map_cons, write_worded hword, ih, intercalate_append_cons,
      String.intercalate_cons_cons, String.append_assoc]
    rfl

end Piece

namespace Column

variable {style : ParamStyle} {c : Column} {d : Dialect}

/-- A definition is the name of a column, its type and its constraints. -/
theorem definition_eq (hplain : c.isKey.truthy = true → c.type = .integer →
    c.name.shown = c.name.text) :
    c.definition d = " ".intercalate (c.name.text :: c.typeText d :: c.constraints) := by
  unfold definition typeText
  split
  · next hserial =>
    rw [Bool.and_eq_true, decide_eq_true_eq] at hserial
    rw [hplain hserial.1 hserial.2, constraints, if_pos hserial.1, Dialect.serialKey]
    simp only [String.intercalate_cons_cons, String.intercalate_singleton, String.append_assoc]
    rfl
  · rfl

theorem write_definitionPieces (hlength : c.type = .varchar → ∃ n : Nat, c.length = .int n)
    (first : Nat) : Piece.write style first (c.definitionPieces d) =
      .ok (" ".intercalate (c.name.text :: c.typeText d :: c.constraints)) := by
  have htype : Piece.write style first (c.typePieces d ++ c.rolePieces) =
      .ok (" ".intercalate (c.typeText d :: c.constraints)) := by
    unfold typePieces
    by_cases hvarchar : c.type = .varchar
    · obtain ⟨n, hn⟩ := hlength hvarchar
      have hread : c.varcharLength? = some n := by simp [varcharLength?, hvarchar, hn]
      have htext : c.typeText d = "VARCHAR(" ++ (toString n ++ ")") := by
        simp [typeText, hvarchar, Dialect.columnType, standardType, hn]
        rfl
      have hrest : Piece.write style first
          (.fixed ")" :: c.constraints.map fun s => .fixed (" " ++ s)) =
            .ok (" ".intercalate (")" :: c.constraints)) := Piece.write_spaced first ")" _
      rw [hread, htext, Piece.intercalate_append_cons, Piece.intercalate_append_cons]
      change (Except.map _ (Except.map _
        (Piece.write style first (.fixed ")" :: c.rolePieces)))) = _
      rw [rolePieces, hrest]
      rfl
    · have hnone : c.varcharLength? = none := by simp [varcharLength?, hvarchar]
      rw [hnone]
      exact Piece.write_spaced first (c.typeText d) c.constraints
  change (Except.map _ (Except.map _
    (Piece.write style first (c.typePieces d ++ c.rolePieces)))) = _
  rw [htype, String.intercalate_cons_cons, String.append_assoc]
  rfl

end Column

namespace Entity

variable {e : Entity} {d : Dialect}

/-- The conditions under which a table is created under the names that were checked: the names of
the table and of a numbered key are written without labels. -/
structure IsUnlabelled (e : Entity) : Prop where
  table : e.table.shown = e.table.text
  key : ∀ c ∈ e.columns, c.isKey.truthy = true → c.type = .integer → c.name.shown = c.name.text

/-- The definitions of the columns, as they stand in the text. -/
def definitions (e : Entity) (d : Dialect) : List String :=
  e.columns.map fun c => " ".intercalate (c.name.text :: c.typeText d :: c.constraints)

theorem createTable_eq (h : e.IsUnlabelled) (ifAbsent : Bool) : e.createTable d ifAbsent =
    (if ifAbsent then "CREATE TABLE IF NOT EXISTS " else "CREATE TABLE ") ++ e.table.text ++
      " (\n  " ++ ",\n  ".intercalate (e.definitions d) ++ "\n)" := by
  have hdefinitions : (e.columns.map fun c => c.definition d) = e.definitions d :=
    List.map_congr_left fun c hc => Column.definition_eq (h.key c hc)
  rw [createTable, h.table, hdefinitions]

theorem write_tablePieces {style : ParamStyle} (h : e.IsUnlabelled)
    (hlength : ∀ c ∈ e.columns, c.type = .varchar → ∃ n : Nat, c.length = .int n)
    (ifAbsent : Bool) (first : Nat) : Piece.write style first (e.tablePieces d ifAbsent) =
      .ok (e.createTable d ifAbsent) := by
  have hcolumns : ∀ first, Piece.write style first
      (Piece.separated ",\n  " (e.columns.map fun c => c.definitionPieces d)) =
        .ok (",\n  ".intercalate (e.definitions d)) :=
    Piece.write_joined ",\n  " fun c hc => Column.write_definitionPieces (hlength c hc)
  have hbody := Piece.write_append_of_ok (hcolumns first) (Piece.write_fixed _ "\n)")
  have hwords : "CREATE TABLE IF NOT EXISTS " = "CREATE TABLE " ++ ("IF" ++ " NOT EXISTS ") := rfl
  rw [createTable_eq h, tablePieces]
  cases ifAbsent with
  | true =>
    simp only [if_true, List.cons_append, List.nil_append, Piece.write, hbody, Except.map, hwords,
      String.append_assoc]
  | false =>
    simp only [Bool.false_eq_true, if_false, List.cons_append, List.nil_append, Piece.write, hbody,
      Except.map, String.append_assoc]

/-- The facts of a table are read back off the text that creates it. -/
theorem ofText?_createTable (hd : d ∈ Dialect.builtin) (h : e.IsUnlabelled)
    (hsome : e.columns ≠ []) (htable : e.table.isIdentifier = true)
    (hnames : ∀ c ∈ e.columns, c.name.isIdentifier = true)
    (hlength : ∀ c ∈ e.columns, c.type = .varchar → ∃ n : Nat, c.length = .int n)
    (ifAbsent : Bool) :
    TableFacts.ofText? d (e.createTable d ifAbsent) = some (e.facts ifAbsent) := by
  have hwritten : ∀ style, Piece.write style 1 (e.tablePieces d ifAbsent) =
      .ok (e.createTable d ifAbsent) := fun _ => write_tablePieces h hlength ifAbsent 1
  have hholes : Piece.holes (e.tablePieces d ifAbsent) = [] :=
    Piece.holes_eq_nil id (hwritten (.other .null))
  have hread := Reader.Reads.tableFacts hd hsome htable hnames hlength ifAbsent 1 _ [] []
    (hwritten d.style) trivial
  rw [hholes, List.append_nil, List.append_nil] at hread
  rw [TableFacts.ofText?, hread]

/-- Tables that are created by one text have the same facts. -/
theorem facts_eq_of_createTable_eq {e' : Entity} (hd : d ∈ Dialect.builtin)
    {ifAbsent ifAbsent' : Bool} (h : e.IsUnlabelled ∧ e'.IsUnlabelled)
    (hsome : e.columns ≠ [] ∧ e'.columns ≠ [])
    (htable : e.table.isIdentifier = true ∧ e'.table.isIdentifier = true)
    (hnames : ∀ c ∈ e.columns ++ e'.columns, c.name.isIdentifier = true)
    (hlength : ∀ c ∈ e.columns ++ e'.columns, c.type = .varchar → ∃ n : Nat, c.length = .int n)
    (hsame : e.createTable d ifAbsent = e'.createTable d ifAbsent') :
    e.facts ifAbsent = e'.facts ifAbsent' := by
  rw [List.forall_mem_append] at hnames hlength
  have hread := ofText?_createTable hd h.1 hsome.1 htable.1 hnames.1 hlength.1 ifAbsent
  have hread' := ofText?_createTable hd h.2 hsome.2 htable.2 hnames.2 hlength.2 ifAbsent'
  rw [hsame, hread'] at hread
  exact (Option.some.inj hread).symm

/-- The constraints of a column follow from what it is: they are written of the key, or of what is
not. -/
theorem mem_constraints (c : Column) :
    ("PRIMARY KEY" ∈ c.constraints ↔ c.isKey.truthy = true) ∧
    ("NOT NULL" ∈ c.constraints ↔ c.isKey.truthy = false ∧ c.nullable.truthy = false) ∧
    ("UNIQUE" ∈ c.constraints ↔ c.isKey.truthy = false ∧ c.unique.truthy = true) ∧
    c.constraints.Nodup := by
  unfold Column.constraints
  cases c.isKey.truthy <;> cases c.nullable.truthy <;> cases c.unique.truthy <;> simp

/-- A column is the key of its model exactly if it is marked as one. -/
theorem key?_eq_some_iff (hcolumns : Column.Compatible e.columns) {c : Column}
    (hc : c ∈ e.columns) : e.key? = some c ↔ c.isKey.truthy = true := by
  constructor
  · exact fun h => (mem_of_key h).2
  · intro htruthy
    cases hkey : e.key? with
    | none => exact (List.find?_eq_none.mp hkey c hc htruthy).elim
    | some key =>
      obtain ⟨hmem, hkeyed⟩ := mem_of_key hkey
      rw [hcolumns.eq_of_isKey hmem hc hkeyed htruthy]

end Entity

namespace Catalog

def labModel : ModelId := ⟨"Lab", 0⟩

def lacModel : ModelId := ⟨"Lac", 0⟩

/-- The fields of a model whose key has a given name. -/
def labBody (key : Value) : List FieldSpec :=
  [⟨"id", .type .nullType, .object (.value .null)
    (.options { type := .sqlType .integer, name := key, isKey := .bool true })⟩]

def labColumn (key : Name) : Column :=
  ⟨key, .integer, .bool false, .bool false, .bool true, .text "id", .null⟩

/-- One model names its key by a constant and the other by the label of it. -/
def labs : Catalog :=
  (((Catalog.empty.declare labModel none true
      (labBody (.textConstant ⟨"E", "M"⟩ "id"))).mapModel .shared labModel (.text "labs")).1.declare
    lacModel none true (labBody (.text "E.M"))).mapModel .shared lacModel (.text "labs") |>.1

theorem labs_declared : labs.Declared :=
  (((Declared.empty.declare labModel none true _).mapModel .shared labModel _).declare lacModel none
    true _).mapModel .shared lacModel _

end Catalog

end RelMap
