import RelMap.Proofs.Model.Declared
import RelMap.Proofs.Query.Written
import RelMap.Proofs.Session.Sent

/-!
# Writing an instance

Saving checks an instance and reads its columns before anything is asked of the driver.  Then it
takes one of three ways: an instance without its key is inserted; an instance with its key and other
columns is written over its row; an instance that has nothing but its key is looked for.  The last
two insert the row if there is none.

Each way comes down to one or two statements (`Entity.newRow`, `Entity.keyedRow`,
`Entity.changedRow`, `Entity.soughtRow`), and an instance with a value that is no parameter is
refused on all of them.
-/

namespace RelMap

namespace Entity

def others (e : Entity) : List Column := e.columns.filter fun c => !c.isKey.truthy

theorem mem_others {e : Entity} {c : Column} :
    c ∈ e.others ↔ c ∈ e.columns ∧ c.isKey.truthy = false := by
  rw [others, List.mem_filter, Bool.not_eq_true']

theorem mem_of_key {e : Entity} {key : Column} (h : e.key? = some key) :
    key ∈ e.columns ∧ key.isKey.truthy = true := by
  unfold key? at h
  have htruthy := List.find?_some h
  exact ⟨List.mem_of_find?_eq_some h, htruthy⟩

section Key

variable {e : Entity} {key : Column} (hcolumns : Column.Compatible e.columns)
  (hkey : e.key? = some key)

include hcolumns hkey

/-- A column is the key or one of the others. -/
theorem eq_or_mem_others {c : Column} (hc : c ∈ e.columns) : c = key ∨ c ∈ e.others := by
  obtain ⟨hmem, htruthy⟩ := mem_of_key hkey
  cases h : c.isKey.truthy with
  | false => exact .inr (mem_others.mpr ⟨hc, h⟩)
  | true => exact .inl (hcolumns.eq_of_isKey hc hmem h htruthy)

/-- The key is told from the other columns by its name. -/
theorem name_ne_iff {c : Column} (hc : c ∈ e.columns) :
    c.name.text ≠ key.name.text ↔ c.isKey.truthy = false := by
  obtain ⟨hmem, htruthy⟩ := mem_of_key hkey
  constructor
  · intro hne
    rcases eq_or_mem_others hcolumns hkey hc with rfl | hother
    · exact (hne rfl).elim
    · exact (mem_others.mp hother).2
  · intro hfalse hname
    obtain rfl := hcolumns.eq_of_name hc hmem hname
    rw [htruthy] at hfalse
    cases hfalse

/-- The values beside that of the key are those of the other columns, in order. -/
theorem filter_values (value : Column → Value) :
    ((e.columns.map fun c => (c.name, value c)).filter fun p => p.1.text ≠ key.name.text) =
      e.others.map fun c => (c.name, value c) := by
  rw [List.filter_map, others]
  congr 1
  refine List.filter_congr fun c hc => ?_
  have hname := name_ne_iff hcolumns hkey hc
  rw [Function.comp_apply]
  cases h : c.isKey.truthy with
  | false => exact decide_eq_true (hname.mpr h)
  | true =>
    refine decide_eq_false fun hne => ?_
    rw [hname.mp hne] at h
    cases h

/-- The value under the name of the key is the key's. -/
theorem find_value (value : Column → Value) :
    (e.columns.map fun c => (c.name, value c)).find? (fun p => p.1.text == key.name.text) =
      some (key.name, value key) := by
  have hfound : e.columns.find? (fun c => c.name.text == key.name.text) = some key := by
    cases h : e.columns.find? (fun c => c.name.text == key.name.text) with
    | none =>
      have hnone := List.find?_eq_none.mp h key (mem_of_key hkey).1
      exact (hnone (beq_self_eq_true _)).elim
    | some c =>
      have hname := List.find?_some (p := fun c : Column => c.name.text == key.name.text) h
      rw [hcolumns.eq_of_name (List.mem_of_find?_eq_some h) (mem_of_key hkey).1 (eq_of_beq hname)]
  have hmap := List.find?_map (f := fun c : Column => (c.name, value c))
    (p := fun p : Name × Value => p.1.text == key.name.text) (l := e.columns)
  rw [hmap]
  exact congrArg (Option.map _) hfound

end Key

/-! ## Statements -/

/-- The columns that the insertion of a row without its key returns. -/
def reported (d : Dialect) (key : Column) : List Column := if d.returning.truthy then [key] else []

theorem mem_reported {d : Dialect} {key c : Column} (h : c ∈ reported d key) :
    c = key ∧ d.returning.truthy = true := by
  unfold reported at h
  split at h
  · next hreturns => exact ⟨List.mem_singleton.mp h, hreturns⟩
  · cases h

variable (e : Entity) (d : Dialect) (key : Column) (param : Column → Value)

/-- The insertion of a row without its key. -/
def newRow : Statement :=
  ⟨e.insertText d.style e.others ++ returningText (reported d key), e.others.map param⟩

/-- The insertion of a row with its key, which comes first. -/
def keyedRow : Statement :=
  ⟨e.insertText d.style (key :: e.others), param key :: e.others.map param⟩

/-- The update of the row with the key. -/
def changedRow : Statement :=
  ⟨e.updateText d.style key e.others, e.others.map param ++ [param key]⟩

/-- The search for the row with the key. -/
def soughtRow : Statement := ⟨e.searchText d.style key, [param key]⟩

end Entity

namespace Catalog

variable {catalog : Catalog} {i : Instance} {e : Entity} {key : Column}
  {value param : Column → Value} {s : Session}

/-- The instance passes its checks and has a value in each column. -/
structure Reads (catalog : Catalog) (i : Instance) (e : Entity) (value : Column → Value) :
    Prop where
  offered : catalog.offersOn i .save = .ok () ∧ catalog.offersOn i .columnValues = .ok ()
  checked : catalog.selfCheck i = .ok ()
  values : ∀ c ∈ e.columns, catalog.valueIn i c = .ok (value c)

/-- What is written of an instance: the key as it is, or a row beside it. -/
def write (catalog : Catalog) (i : Instance) (e : Entity) (key : Column) (value : Column → Value) :
    Run Instance :=
  let data := e.others.map fun c => (c.name, value c)
  if (value key).isNull then catalog.insertNew i key data
  else do
    if ← catalog.overwrite i.model key (value key) data then return i
    else
      let q ← .ofResult (Query.insert {} catalog (.model i.model)
        (rowOfPairs ((key :: e.others).map fun c => (c.name, value c))))
      let _ ← q.execute catalog
      return i

/-- An instance that has a value in each column offers them under the names of the columns. -/
theorem dictionary_eq_ok (he : catalog.entity i.model = .ok e)
    (hoffered : catalog.offersOn i .columnValues = .ok ())
    (hvalue : ∀ c ∈ e.columns, catalog.valueIn i c = .ok (value c)) :
    catalog.dictionary i = .ok (e.columns.map fun c => (c.name, value c)) := by
  unfold dictionary
  rw [hoffered, he]
  change e.columns.mapM _ = _
  refine Result.mapM_eq_ok_map fun c hc => ?_
  rw [hvalue c hc]
  rfl

theorem save_eq_write (hcatalog : catalog.Declared) (he : catalog.entity i.model = .ok e)
    (hkey : e.key? = some key) (h : catalog.Reads i e value) :
    catalog.save i s = catalog.write i e key value s := by
  have hcolumns := hcatalog.compatible he
  have hrequired : e.requireKey = .ok key := by
    rw [Entity.requireKey, hkey]
  have hdictionary := dictionary_eq_ok he h.offered.2 h.values
  unfold save write
  rw [Run.bind_apply]
  simp only [h.offered.1, he, bind, Except.bind, hrequired, h.checked, hdictionary]
  simp only [Run.ofResult, Entity.filter_values hcolumns hkey, Entity.find_value hcolumns hkey]
  rfl

/-! ## The three ways -/

theorem execute_built {q : Query} {st : Statement}
    (h : q.build catalog s.adapter.dialect = .ok st) :
    q.execute catalog s = st.run s :=
  Run.ofResult_bind_ok h _

section Ways

variable (hcatalog : catalog.Declared) (he : catalog.entity i.model = .ok e)
  (hkey : e.key? = some key) (hparam : ∀ c ∈ e.columns, (value c).toParameter = .ok (param c))
  (hstyle : s.adapter.dialect.style.IsKnown)

include hcatalog he hkey hparam

theorem insertion_eq (d : Dialect) :
    catalog.insertion d i.model key (e.others.map fun c => (c.name, value c)) =
      .ok (Query.ofInsert i.model e e.others param (Entity.reported d key)) := by
  have hcolumns := hcatalog.compatible he
  have hothers : ∀ c ∈ e.others, c ∈ e.columns := fun c hc => (Entity.mem_others.mp hc).1
  have hreturning : (if d.returning.truthy then
        (Query.ofInsert i.model e e.others param []).returningColumns [key.name.toValue]
      else .ok (Query.ofInsert i.model e e.others param [])) =
      .ok (Query.ofInsert i.model e e.others param (Entity.reported d key)) := by
    unfold Entity.reported
    split
    · have hname := Query.columnName_toValue (hcolumns.named key (Entity.mem_of_key hkey).1)
      have hnames : [key.name.toValue].mapM Query.columnName = .ok [key.name.toValue] :=
        Result.mapM_cons_eq_ok.mpr ⟨_, [], hname, List.mapM_nil, rfl⟩
      exact Result.bind_eq_ok.mpr ⟨_, hnames, rfl⟩
    · rfl
  unfold insertion
  dsimp only
  split
  · next hempty =>
    rw [List.isEmpty_iff, List.map_eq_nil_iff] at hempty
    have hdefaults : Query.insertDefaults {} catalog (.model i.model) =
        .ok (Query.ofInsert i.model e e.others param []) := by
      rw [hempty, Query.insertDefaults, Query.target_model he]
      rfl
    exact Result.bind_eq_ok.mpr ⟨_, hdefaults, hreturning⟩
  · next hgiven =>
    have hne : e.others ≠ [] := fun hnil => hgiven (by rw [hnil]; rfl)
    have hinsert := Query.insert_of_columns he (fun c hc => hcolumns.named c (hothers c hc))
      (fun c hc => hparam c (hothers c hc)) hne
    exact Result.bind_eq_ok.mpr ⟨_, hinsert, hreturning⟩

include hstyle

/-- An instance without its key is inserted without it, and gets the key that is reported. -/
theorem insertNew_eq (hoffered : catalog.offersOn i .insert = .ok ()) {field : String}
    (hfield : key.fieldName = .ok field) :
    catalog.insertNew i key (e.others.map fun c => (c.name, value c)) s = (do
      let r ← (e.newRow s.adapter.dialect key param).run
      let v ← Run.ofResult (reportedKey s.adapter.dialect key r)
      return if v.isNull then i else i.set field v : Run Instance) s := by
  have hreported : ∀ c ∈ Entity.reported s.adapter.dialect key, c ∈ e.columns := by
    intro c hc
    rw [(Entity.mem_reported hc).1]
    exact (Entity.mem_of_key hkey).1
  have hreturns : Entity.reported s.adapter.dialect key ≠ [] →
      s.adapter.dialect.returning.truthy = true := by
    intro hne
    obtain ⟨c, hc⟩ := List.exists_mem_of_ne_nil _ hne
    exact (Entity.mem_reported hc).2
  have hbuilt :
      (Query.ofInsert i.model e e.others param (Entity.reported s.adapter.dialect key)).build
        catalog s.adapter.dialect = .ok _ :=
    Query.build_ofInsert he hstyle (fun c hc => (Entity.mem_others.mp hc).1) hreported hreturns
  unfold insertNew
  rw [Run.ofResult_bind_ok hoffered]
  change (Run.ofResult (catalog.insertion s.adapter.dialect i.model key _) >>= _) s = _
  rw [Run.ofResult_bind_ok (insertion_eq hcatalog he hkey hparam s.adapter.dialect)]
  refine Run.bind_congr_apply (execute_built hbuilt) fun r t _ => ?_
  refine Run.bind_congr_apply rfl fun v t' _ => ?_
  split
  · rfl
  · rw [Run.ofResult_bind_ok hfield]

/-- A row with the key is inserted with the key first. -/
theorem insertRow_eq :
    (do
      let q ← Run.ofResult (Query.insert {} catalog (.model i.model)
        (rowOfPairs ((key :: e.others).map fun c => (c.name, value c))))
      let _ ← q.execute catalog
      return i : Run Instance) s = (do
        let _ ← (e.keyedRow s.adapter.dialect key param).run
        return i : Run Instance) s := by
  have hcolumns := hcatalog.compatible he
  have hmem : ∀ c ∈ key :: e.others, c ∈ e.columns := by
    intro c hc
    rcases List.mem_cons.mp hc with rfl | hc
    · exact (Entity.mem_of_key hkey).1
    · exact (Entity.mem_others.mp hc).1
  have hbuilt : (Query.ofInsert i.model e (key :: e.others) param []).build catalog
      s.adapter.dialect =
      .ok ⟨e.insertText s.adapter.dialect.style (key :: e.others) ++ returningText [],
        (key :: e.others).map param⟩ :=
    Query.build_ofInsert he hstyle hmem nofun (fun hne => (hne rfl).elim)
  have htext : e.insertText s.adapter.dialect.style (key :: e.others) ++ returningText [] =
      e.insertText s.adapter.dialect.style (key :: e.others) := String.append_empty
  rw [htext] at hbuilt
  rw [Run.ofResult_bind_ok (Query.insert_of_columns he (fun c hc => hcolumns.named c (hmem c hc))
    (fun c hc => hparam c (hmem c hc)) (List.cons_ne_nil _ _))]
  exact Run.bind_congr_apply (execute_built hbuilt) fun _ _ _ => rfl

/-- A row that is not found where the instance is written is inserted. -/
theorem write_eq_of_overwrite (hvalue : value key ≠ .null) {st : Statement}
    {found : QueryResult → Bool}
    (hoverwrite : catalog.overwrite i.model key (value key)
        (e.others.map fun c => (c.name, value c)) s =
      (st.run >>= fun r => pure (found r)) s) :
    catalog.write i e key value s = (do
      let r ← st.run
      if found r then return i
      else do
        let _ ← (e.keyedRow s.adapter.dialect key param).run
        return i : Run Instance) s := by
  have hset : (value key).isNull = false := by
    cases h : value key with
    | null => exact (hvalue h).elim
    | _ => rfl
  unfold write
  simp only [hset, Bool.false_eq_true, if_false]
  rw [Run.bind_apply, hoverwrite, Run.bind_apply, Run.bind_apply]
  rcases hr : st.run s with ⟨err | r, t⟩
  · rfl
  · have hdialect := Statement.dialect_of_run hr
    change (if found r = true then _ else _ : Run Instance) t =
      (if found r = true then _ else _ : Run Instance) t
    cases found r with
    | true => rfl
    | false =>
      rw [← hdialect] at hstyle ⊢
      exact insertRow_eq hcatalog he hkey hparam hstyle

/-- An instance with its key and other columns is written over its row. -/
theorem write_update (hvalue : value key ≠ .null) (hothers : e.others ≠ []) :
    catalog.write i e key value s = (do
      let r ← (e.changedRow s.adapter.dialect key param).run
      if 0 < r.rowCount then return i
      else do
        let _ ← (e.keyedRow s.adapter.dialect key param).run
        return i : Run Instance) s := by
  have hcolumns := hcatalog.compatible he
  have hmem : ∀ c ∈ e.others, c ∈ e.columns := fun c hc => (Entity.mem_others.mp hc).1
  have hkeyed := (Entity.mem_of_key hkey).1
  have hbuilt : (Query.ofUpdate i.model e e.others param key).build catalog s.adapter.dialect =
      .ok _ := Query.build_ofUpdate he hstyle hmem hkeyed hothers
  have hgiven : (e.others.map fun c => (c.name, value c)).isEmpty = false := by
    cases h : e.others with
    | nil => exact (hothers h).elim
    | cons c rest => rfl
  have hoverwrite : catalog.overwrite i.model key (value key)
      (e.others.map fun c => (c.name, value c)) s =
      ((e.changedRow s.adapter.dialect key param).run >>= fun r =>
        pure (decide (0 < r.rowCount))) s := by
    unfold overwrite
    simp only [hgiven, Bool.false_eq_true, if_false]
    rw [Run.ofResult_bind_ok (Query.update_of_columns he
      (fun c hc => hcolumns.named c (hmem c hc)) (fun c hc => hparam c (hmem c hc))
      (hcolumns.named key hkeyed) (hparam key hkeyed))]
    exact Run.bind_congr_apply (execute_built hbuilt) fun _ _ _ => rfl
  rw [write_eq_of_overwrite hcatalog he hkey hparam hstyle hvalue hoverwrite]
  simp only [decide_eq_true_eq]

/-- An instance that has nothing but its key is looked for. -/
theorem write_search (hvalue : value key ≠ .null) (hothers : e.others = []) :
    catalog.write i e key value s = (do
      let r ← (e.soughtRow s.adapter.dialect key param).run
      if r.first?.isSome then return i
      else do
        let _ ← (e.keyedRow s.adapter.dialect key param).run
        return i : Run Instance) s := by
  have hcolumns := hcatalog.compatible he
  have hkeyed := (Entity.mem_of_key hkey).1
  have hbuilt : (Query.ofSearch i.model e param key).build catalog s.adapter.dialect = .ok _ :=
    Query.build_ofSearch he hstyle hkeyed
  have hoverwrite : catalog.overwrite i.model key (value key)
      (e.others.map fun c => (c.name, value c)) s =
      ((e.soughtRow s.adapter.dialect key param).run >>= fun r => pure r.first?.isSome) s := by
    rw [hothers]
    change (Run.ofResult (Query.select {} _ >>= _) >>= _) s = _
    rw [Run.ofResult_bind_ok (Query.search_of_key he (hcolumns.named key hkeyed)
      (hparam key hkeyed))]
    exact Run.bind_congr_apply (execute_built hbuilt) fun _ _ _ => rfl
  exact write_eq_of_overwrite hcatalog he hkey hparam hstyle hvalue hoverwrite

end Ways

/-! ## Refusals -/

/-- An instance is read before anything is asked of the driver. -/
theorem reads_or_refused (he : catalog.entity i.model = .ok e) :
    (∃ value, catalog.Reads i e value) ∨ ∃ err, catalog.save i s = (.error err, s) := by
  unfold save
  rw [Run.bind_apply]
  split
  · next p t h =>
    refine .inl ⟨fun c => (catalog.valueIn i c).toOption.getD .null, ?_⟩
    obtain ⟨hread, -⟩ := Prod.mk.inj h
    obtain ⟨u, hsave, hread⟩ := Result.bind_eq_ok.mp hread
    obtain ⟨e', he', hread⟩ := Result.bind_eq_ok.mp hread
    obtain ⟨key, -, hread⟩ := Result.bind_eq_ok.mp hread
    obtain ⟨u', hcheck, hread⟩ := Result.bind_eq_ok.mp hread
    obtain ⟨values, hvalues, -⟩ := Result.bind_eq_ok.mp hread
    obtain ⟨u'', hoffered, hvalues⟩ := Result.bind_eq_ok.mp hvalues
    obtain ⟨e'', he'', hvalues⟩ := Result.bind_eq_ok.mp hvalues
    rw [he] at he''
    cases he''
    refine ⟨⟨hsave, hoffered⟩, hcheck, fun c hc => ?_⟩
    obtain ⟨pair, hpair⟩ := Result.exists_of_mapM_eq_ok hvalues hc
    obtain ⟨v, hv, -⟩ := Result.map_eq_ok.mp hpair
    rw [hv]
    rfl
  · next err t h =>
    obtain ⟨-, rfl⟩ := Prod.mk.inj h
    exact .inr ⟨err, rfl⟩

section Refusals

variable (hcatalog : catalog.Declared) (he : catalog.entity i.model = .ok e)
  (hkey : e.key? = some key) {c : Column} {err : Error}
  (hvalue : (value c).toParameter = .error err)

include hcatalog he hvalue

theorem insertion_eq_error (d : Dialect) (hc : c ∈ e.others) :
    ∃ err', catalog.insertion d i.model key (e.others.map fun c => (c.name, value c)) =
      .error err' := by
  have hcolumns := hcatalog.compatible he
  obtain ⟨err', hcells⟩ := Query.cells_eq_error
    (fun c hc => hcolumns.named c (Entity.mem_others.mp hc).1) hc hvalue
  have hgiven : (e.others.map fun c => (c.name, value c)).isEmpty = false := by
    cases h : e.others with
    | nil =>
      rw [h] at hc
      cases hc
    | cons c rest => rfl
  refine ⟨err', ?_⟩
  unfold insertion
  simp only [hgiven, Bool.false_eq_true, if_false]
  rw [Query.insert, hcells]
  rfl

include hkey

theorem overwrite_eq_error (hc : c ∈ e.columns) :
    ∃ err', catalog.overwrite i.model key (value key) (e.others.map fun c => (c.name, value c)) s =
      (.error err', s) := by
  have hcolumns := hcatalog.compatible he
  have hkeyed := hcolumns.named key (Entity.mem_of_key hkey).1
  unfold overwrite
  split
  · next hempty =>
    rw [List.isEmpty_iff, List.map_eq_nil_iff] at hempty
    -- There are no other columns, so the value is that of the key.
    have hck : c = key := by
      rcases Entity.eq_or_mem_others hcolumns hkey hc with hck | hother
      · exact hck
      · rw [hempty] at hother
        cases hother
    rw [hck] at hvalue
    obtain ⟨err', herror⟩ : ∃ err', (Query.select {} (.list [key.name.toValue]) >>= fun q =>
        q.fromTable catalog (.model i.model) >>= fun q =>
          q.whereKey key (value key) >>= Query.limitOne) = .error err' := by
      refine Result.exists_bind_eq_error fun q => Result.exists_bind_eq_error fun q' => ?_
      obtain ⟨err', hwhere⟩ := Query.whereKey_eq_error q' hkeyed hvalue
      exact ⟨err', Result.bind_eq_error.mpr (.inl hwhere)⟩
    exact ⟨err', Run.ofResult_bind_error herror _⟩
  · obtain ⟨err', herror⟩ : ∃ err', (Query.update {} catalog (.model i.model)
        (rowOfPairs (e.others.map fun c => (c.name, value c))) >>= fun q =>
          q.whereKey key (value key)) = .error err' := by
      rcases Entity.eq_or_mem_others hcolumns hkey hc with hck | hother
      · rw [hck] at hvalue
        exact Result.exists_bind_eq_error fun q => Query.whereKey_eq_error q hkeyed hvalue
      · obtain ⟨err', hcells⟩ := Query.cells_eq_error
          (fun c hc => hcolumns.named c (Entity.mem_others.mp hc).1) hother hvalue
        refine ⟨err', Result.bind_eq_error.mpr (.inl ?_)⟩
        rw [Query.update, hcells]
        rfl
    exact ⟨err', Run.ofResult_bind_error herror _⟩

/-- An instance with a value that is no parameter is refused before anything is sent. -/
theorem write_refused (hc : c ∈ e.columns) :
    ∃ err', catalog.write i e key value s = (.error err', s) := by
  unfold write
  split
  · next hnull =>
    have hother : c ∈ e.others := by
      rcases Entity.eq_or_mem_others (hcatalog.compatible he) hkey hc with rfl | hother
      · cases h : value c with
        | null =>
          rw [h] at hvalue
          cases hvalue
        | _ =>
          rw [h] at hnull
          cases hnull
      · exact hother
    unfold insertNew
    cases hoffered : catalog.offersOn i .insert with
    | error err' => exact ⟨err', rfl⟩
    | ok u =>
      obtain ⟨err', herror⟩ := insertion_eq_error hcatalog he hvalue s.adapter.dialect hother
      refine ⟨err', ?_⟩
      change (Run.ofResult (catalog.insertion s.adapter.dialect i.model key _) >>= _) s = _
      exact Run.ofResult_bind_error herror _
  · obtain ⟨err', herror⟩ := overwrite_eq_error hcatalog he hkey hvalue hc
    refine ⟨err', ?_⟩
    rw [Run.bind_apply, herror]

end Refusals

end Catalog

end RelMap
