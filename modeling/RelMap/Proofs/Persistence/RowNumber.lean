import RelMap.Proofs.Persistence.Saving
import RelMap.Proofs.Query.Admission

/-!
# Keys that are row numbers

Where a dialect returns no columns, an instance without its key gets the number of its row, as the
driver reports it.  The number is the key only if the database numbers keys by itself, which it does
for integer keys and no others.  Saving does not look at the type of the key, so an instance whose
key is a text gets the number of its row, too (`Catalog.save_takes_rowNumber`).
-/

namespace RelMap

namespace Catalog

variable {catalog : Catalog} {i j : Instance} {e : Entity} {key : Column} {s t : Session}

theorem tells_of_queryExecute {q : Query} {x : QueryResult}
    (h : q.execute catalog s = (.ok x, t)) : s.reply.Tells x := by
  obtain ⟨a, u, ha, h⟩ := Run.bind_eq_ok h
  obtain ⟨st, u', hst, h⟩ := Run.bind_eq_ok h
  cases ha
  obtain ⟨-, rfl⟩ := Prod.mk.inj hst
  exact Run.tells_of_execute h

/-- The attribute that is set is the one that is read. -/
theorem attributeOf_set_self (i : Instance) (field : String) (v : Value) :
    catalog.attributeOf (i.set field v) field = .ok v := by
  unfold attributeOf Instance.set
  simp only [getPair?_putPair_self, Option.some_or]

theorem valueIn_set {field : String} (hfield : key.fieldName = .ok field) (i : Instance)
    (v : Value) : catalog.valueIn (i.set field v) key = .ok v :=
  Result.bind_eq_ok.mpr ⟨field, hfield, attributeOf_set_self i field v⟩

/-- An instance that is inserted without its key has the key that is reported. -/
theorem valueIn_of_insertNew {data : List (Name × Value)}
    (hnull : catalog.valueIn i key = .ok .null)
    (hj : catalog.insertNew i key data s = (.ok j, t)) :
    ∃ x, s.reply.Tells x ∧
      ∃ v, reportedKey s.adapter.dialect key x = .ok v ∧ catalog.valueIn j key = .ok v := by
  obtain ⟨_, s₁, hoffered, hasked⟩ := Run.bind_eq_ok hj
  obtain ⟨a, s₂, hadapter, hbuilt⟩ := Run.bind_eq_ok hasked
  obtain ⟨q, s₃, hq, hsent⟩ := Run.bind_eq_ok hbuilt
  obtain ⟨x, s₄, hx, hreported⟩ := Run.bind_eq_ok hsent
  obtain ⟨v, s₅, hv, hset⟩ := Run.bind_eq_ok hreported
  obtain ⟨-, rfl⟩ := Prod.mk.inj hoffered
  obtain ⟨ha, rfl⟩ := Prod.mk.inj hadapter
  cases ha
  obtain ⟨-, rfl⟩ := Prod.mk.inj hq
  refine ⟨x, tells_of_queryExecute hx, v, congrArg Prod.fst hv, ?_⟩
  split at hset
  · next hvnull =>
    cases hset
    rw [Value.isNull_iff.mp hvnull]
    exact hnull
  · obtain ⟨field, s₆, hfield, hset⟩ := Run.bind_eq_ok hset
    cases hset
    exact valueIn_set (congrArg Prod.fst hfield) i v

/-- Saving an instance without its key inserts it. -/
theorem save_eq_insertNew (hcatalog : catalog.Declared) (he : catalog.entity i.model = .ok e)
    (hkey : e.key? = some key) (hnull : catalog.valueIn i key = .ok .null) {value : Column → Value}
    (hreads : catalog.Reads i e value) :
    catalog.save i s = catalog.insertNew i key (e.others.map fun c => (c.name, value c)) s := by
  have hvalue : value key = .null := by
    have hread := hreads.values key (Entity.mem_of_key hkey).1
    rw [hnull] at hread
    exact (Except.ok.inj hread).symm
  rw [save_eq_write hcatalog he hkey hreads, write_eq_insertNew hvalue]

theorem reportedKey_of_not_returning {d : Dialect} (hd : d.returning.truthy = false)
    (key : Column) (x : QueryResult) : reportedKey d key x = .ok x.lastRowId := by
  rw [reportedKey, hd]
  rfl

/-- An instance without its key is saved if it can be read and written and the driver raises
nothing. -/
theorem exists_save_eq_ok (hcatalog : catalog.Declared) (he : catalog.entity i.model = .ok e)
    (hkey : e.key? = some key) (hnull : catalog.valueIn i key = .ok .null)
    (hd : s.adapter.dialect.returning.truthy = false) {value param : Column → Value}
    (hreads : catalog.Reads i e value)
    (hparam : ∀ c ∈ e.columns, (value c).toParameter = .ok (param c))
    (hoffered : catalog.offersOn i .insert = .ok ()) (hstyle : s.adapter.dialect.style.IsKnown)
    (hconnected : s.adapter.connection.isSome = true) (hraises : s.reply.raises = none)
    (hresult : s.reply.columns? = none) : ∃ j t, catalog.save i s = (.ok j, t) := by
  obtain ⟨field, hfield, -⟩ := Result.bind_eq_ok.mp
    (hreads.values key (Entity.mem_of_key hkey).1)
  obtain ⟨c, hc⟩ := Option.isSome_iff_exists.mp hconnected
  have hcolumns := Reply.columns?_eq_none_iff.mp hresult
  have htells := Reply.Tells.effect hraises hcolumns s.reply.rowCount.comesTo_touched
  rw [save_eq_insertNew hcatalog he hkey hnull hreads,
    insertNew_eq hcatalog he hkey hparam hstyle hoffered hfield]
  have hsaved := ((newRow_goes i key hparam hc field).2 _).mpr
    ⟨_, _, htells, .numbered hd, rfl⟩
  exact ⟨_, _, Prod.ext hsaved rfl⟩

/-- **An instance without its key takes the number of its row for its key**, where the dialect
returns no columns, whatever the type of the key: a key that is no integer, and so is not numbered
by the database, stays absent exactly if the driver reports no number.  Nothing else of the instance
changes.  The instance is saved if it can be read and written and the driver raises nothing. -/
theorem save_takes_rowNumber (hcatalog : catalog.Declared) (he : catalog.entity i.model = .ok e)
    (hkey : e.key? = some key) (hnull : catalog.valueIn i key = .ok .null)
    (hd : s.adapter.dialect.returning.truthy = false) :
    (∀ j t, catalog.save i s = (.ok j, t) →
      catalog.valueIn j key = .ok s.reply.rowNumber ∧ catalog.Keeps e key i j ∧
        ((key.type ≠ .integer → catalog.valueIn j key = .ok .null) ↔
          key.type = .integer ∨ s.reply.rowNumber = .null)) ∧
    ∀ value param : Column → Value, catalog.Reads i e value →
      (∀ c ∈ e.columns, (value c).toParameter = .ok (param c)) →
      catalog.offersOn i .insert = .ok () → s.adapter.dialect.style.IsKnown →
      s.adapter.connection.isSome = true → s.reply.raises = none → s.reply.columns? = none →
        ∃ j t, catalog.save i s = (.ok j, t) := by
  constructor
  · intro j t hj
    rcases reads_or_refused (s := s) he with ⟨value, hreads⟩ | ⟨err, hrefused⟩
    · have hinserted := hj
      rw [save_eq_insertNew hcatalog he hkey hnull hreads] at hinserted
      obtain ⟨x, hx, v, hv, hvalue⟩ := valueIn_of_insertNew hnull hinserted
      rw [reportedKey_of_not_returning hd, hx.lastRowId] at hv
      cases hv
      rw [save_eq_write hcatalog he hkey hreads] at hj
      refine ⟨hvalue, (write_keeps (hcatalog.compatible he) hkey hj).1, ?_⟩
      rw [hvalue, Except.ok.injEq]
      exact Decidable.imp_iff_not_or.trans (or_congr_left Decidable.not_not)
    · rw [hrefused] at hj
      cases hj
  · intro value param hreads hparam hoffered hstyle hconnected hraises hresult
    exact exists_save_eq_ok hcatalog he hkey hnull hd hreads hparam hoffered hstyle hconnected
      hraises hresult

/-! ### A label -/

def labelModel : ModelId := ⟨"Label", 0⟩

/-- The fields of labels: a code, which is their key, and a title. -/
def labelBody : List FieldSpec :=
  [⟨"code", .type .nullType, .object (.value .null)
      (.options { type := .sqlType .text, nullable := .bool false, isKey := .bool true })⟩,
    ⟨"title", .type .nullType, .object (.value .null)
      (.options { type := .sqlType .text, nullable := .bool false })⟩]

def codeColumn : Column :=
  ⟨.plain "code", .text, .bool false, .bool false, .bool true, .text "code", .null⟩

def labelColumns : List Column :=
  [codeColumn, ⟨.plain "title", .text, .bool false, .bool false, .bool false, .text "title", .null⟩]

def labels : Catalog :=
  ((Catalog.empty.declare labelModel none true labelBody).mapModel .shared labelModel
    (.text "labels")).1

theorem labels_declared : labels.Declared :=
  (Declared.empty.declare labelModel none true labelBody).mapModel .shared labelModel
    (.text "labels")

def urgent : Instance := ⟨labelModel, [("code", .null), ("title", .text "urgent")]⟩

def urgentValue (c : Column) : Value := if c.name.text = "code" then .null else .text "urgent"

/-- A connected adapter whose driver reports a row number. -/
def numbering (n : Int) : Session where
  adapter := { dialect := .generic, backend := .generic, connection := some 0 }
  script := { replies := [{ lastRowId := .int n }] }

theorem urgent_reads :
    labels.Reads urgent ⟨labelModel, .plain "labels", labelColumns⟩ urgentValue := by
  refine ⟨⟨rfl, rfl⟩, rfl, fun c hc => ?_⟩
  simp only [labelColumns, codeColumn, List.mem_cons, List.not_mem_nil, or_false] at hc
  rcases hc with rfl | rfl <;> rfl

theorem save_takes_rowNumber_urgent : ∃ j t, labels.save urgent (numbering 7) = (.ok j, t) ∧
    labels.valueIn j codeColumn = .ok (.int 7) := by
  have hentity : labels.entity urgent.model = .ok ⟨labelModel, .plain "labels", labelColumns⟩ := by
    rfl
  have hparam : ∀ c ∈ labelColumns, (urgentValue c).toParameter = .ok (urgentValue c) := by
    intro c hc
    simp only [labelColumns, codeColumn, List.mem_cons, List.not_mem_nil, or_false] at hc
    rcases hc with rfl | rfl <;> rfl
  have hkey : Entity.key? ⟨labelModel, .plain "labels", labelColumns⟩ = some codeColumn := rfl
  obtain ⟨htaken, hsaved⟩ := save_takes_rowNumber (s := numbering 7) labels_declared hentity hkey
    rfl rfl
  obtain ⟨j, t, hj⟩ := hsaved urgentValue urgentValue urgent_reads hparam rfl trivial rfl rfl rfl
  exact ⟨j, t, hj, (htaken j t hj).1⟩

/-- A key that is no row number does not always stay absent: the code of a label is a text, and it
becomes the number of the label's row. -/
theorem save_not_always_spares_key :
    ¬ ∀ (catalog : Catalog) (i j : Instance) (e : Entity) (key : Column) (s t : Session),
      catalog.Declared → catalog.entity i.model = .ok e → e.key? = some key →
      catalog.valueIn i key = .ok .null → s.adapter.dialect.returning.truthy = false →
      catalog.save i s = (.ok j, t) → key.type ≠ .integer →
      catalog.valueIn j key = .ok .null := by
  intro hall
  have hsaved : (labels.save urgent (numbering 7)).1 =
      .ok ⟨labelModel, [("code", .int 7), ("title", .text "urgent")]⟩ := by
    rfl
  have hspared := hall labels urgent _ _ codeColumn (numbering 7) _ labels_declared rfl rfl rfl rfl
    (Prod.ext hsaved rfl) nofun
  cases hspared

end Catalog

end RelMap
