import Mathlib.Data.List.Nodup
import RelMap.Proofs.Query.Written
import RelMap.Proofs.Schema.Reading
import RelMap.Proofs.Text.Spelling

/-!
# Names that differ in letter case

Names are written without quotes, so a database takes two names for one if they differ in the case of
their letters only.  The columns of a model are compared by their very characters: no two of them
have one name, but two may have names that are one to a database (`Catalog.columns_folded_iff`).  Then
the statement that creates the table defines that column twice, and a whole row lists it twice.
-/

namespace RelMap

namespace Entity

variable {e : Entity}

/-- The names of the columns as a database compares them. -/
def foldedNames (e : Entity) : List String := e.columnNames.map Text.folded

theorem nodup_columnNames (h : Column.Compatible e.columns) : e.columnNames.Nodup :=
  List.pairwise_map.mpr (h.apart.imp Column.IsApart.name_ne)

/-- No column comes twice to a database exactly if no two names differ in letter case only. -/
theorem nodup_foldedNames_iff (h : Column.Compatible e.columns) :
    e.foldedNames.Nodup ↔ ∀ c ∈ e.columns, ∀ d ∈ e.columns,
      Text.folded c.name.text = Text.folded d.name.text → c.name.text = d.name.text := by
  rw [foldedNames, List.nodup_map_iff_inj_on (nodup_columnNames h)]
  simp only [columnNames, List.forall_mem_map]

/-- The columns that the facts of a table name. -/
theorem columnNames_facts (e : Entity) (ifAbsent : Bool) :
    ((e.facts ifAbsent).columns.map fun c => c.name) = e.columnNames := by
  rw [facts, List.map_map]
  rfl

end Entity

namespace Catalog

/-- **Which columns come twice to a database.**  The names of a model's columns are all different,
whatever was declared, but they are compared exactly.  So they are different without regard to letter
case exactly if no two of them differ in letter case only, as it is if all of them are written in
small letters.  The statement that creates the table defines these columns, and the insertion of a
whole row lists them, each by these names and in this order; so both name a column twice exactly if
two names differ in letter case only. -/
theorem columns_folded_iff {catalog : Catalog} {m : ModelId} {e : Entity}
    (hcatalog : catalog.Declared) (he : catalog.entity m = .ok e) :
    e.columnNames.Nodup ∧
    (e.foldedNames.Nodup ↔ ∀ c ∈ e.columns, ∀ d ∈ e.columns,
      Text.folded c.name.text = Text.folded d.name.text → c.name.text = d.name.text) ∧
    ((∀ s ∈ e.columnNames, Text.folded s = s) → e.foldedNames.Nodup) ∧
    (∀ d ∈ Dialect.builtin, ∀ ifAbsent, e.IsUnlabelled → e.columns ≠ [] →
      e.table.isIdentifier = true →
      (∀ c ∈ e.columns, c.type = .varchar → ∃ n : Nat, c.length = .int n) →
      ∃ t, TableFacts.ofText? d (e.createTable d ifAbsent) = some t ∧
        (t.columns.map fun c => c.name) = e.columnNames) ∧
    (∀ (d : Dialect) (value param : Column → Value), d.style.IsKnown → e.columns ≠ [] →
      (∀ c ∈ e.columns, (value c).toParameter = .ok (param c)) →
      ∃ q, Query.insert {} catalog (.model m)
          (rowOfPairs (e.columns.map fun c => (c.name, value c))) = .ok q ∧
        q.build catalog d = .ok ⟨"INSERT INTO " ++ e.table.shown ++ " (" ++
          ", ".intercalate e.columnNames ++ ") VALUES (" ++
          ", ".intercalate (d.style.marks 1 e.columns.length) ++ ")", e.columns.map param⟩) := by
  have hcompatible := hcatalog.compatible he
  have hnodup := Entity.nodup_columnNames hcompatible
  refine ⟨hnodup, Entity.nodup_foldedNames_iff hcompatible, ?_, ?_, ?_⟩
  · intro hsmall
    rw [Entity.foldedNames, List.map_congr_left hsmall, List.map_id']
    exact hnodup
  · intro d hd ifAbsent hplain hsome htable hlength
    have hread := Entity.ofText?_createTable hd hplain hsome htable hcompatible.named hlength
      ifAbsent
    exact ⟨_, hread, e.columnNames_facts ifAbsent⟩
  · intro d value param hstyle hsome hparam
    refine ⟨_, Query.insert_of_columns he hcompatible.named hparam hsome, ?_⟩
    have hbuild : (Query.ofInsert m e e.columns param []).build catalog d =
        .ok ⟨e.insertText d.style e.columns ++ returningText [], e.columns.map param⟩ :=
      Query.build_ofInsert he hstyle (fun c hc => hc) nofun nofun
    have htext : e.insertText d.style e.columns = "INSERT INTO " ++ e.table.shown ++ " (" ++
        ", ".intercalate e.columnNames ++ ") VALUES (" ++
        ", ".intercalate (d.style.marks 1 e.columns.length) ++ ")" := by
      rw [Entity.insertText, if_neg (by simpa using hsome)]
      rfl
    rw [hbuild, htext]
    exact congrArg (fun sql => Except.ok (Statement.mk sql _)) String.append_empty

/-! ### Articles with a title and a Title -/

def articleModel : ModelId := ⟨"Article", 0⟩

/-- The fields of articles: a key, a title, and a heading under the name of the title. -/
def articleBody : List FieldSpec :=
  [⟨"id", .type .nullType, .object (.value .null)
      (.options { type := .sqlType .integer, nullable := .bool false, isKey := .bool true })⟩,
    ⟨"title", .type .nullType, .object (.value .null) (.options { type := .sqlType .text })⟩,
    ⟨"heading", .type .nullType, .object (.value .null)
      (.options { type := .sqlType .text, name := .text "Title" })⟩]

def articles : Catalog :=
  ((Catalog.empty.declare articleModel none true articleBody).mapModel .shared articleModel
    (.text "articles")).1

theorem articles_declared : articles.Declared :=
  (Declared.empty.declare articleModel none true articleBody).mapModel .shared articleModel
    (.text "articles")

theorem exists_articles_entity : ∃ e, articles.entity articleModel = .ok e ∧
    e.columnNames = ["id", "title", "Title"] := ⟨_, rfl, rfl⟩

theorem columns_folded_iff_articles : ∃ e, articles.entity articleModel = .ok e ∧
    e.columnNames.Nodup ∧ ¬ ∀ c ∈ e.columns, ∀ d ∈ e.columns,
      Text.folded c.name.text = Text.folded d.name.text → c.name.text = d.name.text := by
  obtain ⟨e, he, hnames⟩ := exists_articles_entity
  obtain ⟨hnodup, hiff, -⟩ := columns_folded_iff articles_declared he
  refine ⟨e, he, hnodup, fun hall => ?_⟩
  have hfolded := hiff.mpr hall
  rw [Entity.foldedNames, hnames] at hfolded
  exact absurd hfolded (by decide)

/-- Not all columns of a model are different to a database. -/
theorem columns_not_always_folded :
    ¬ ∀ (catalog : Catalog) (m : ModelId) (e : Entity), catalog.Declared →
      catalog.entity m = .ok e → e.foldedNames.Nodup := by
  intro hall
  obtain ⟨e, he, hnames⟩ := exists_articles_entity
  have hfolded := hall articles articleModel e articles_declared he
  rw [Entity.foldedNames, hnames] at hfolded
  exact absurd hfolded (by decide)

end Catalog

end RelMap
