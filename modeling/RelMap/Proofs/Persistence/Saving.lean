import RelMap.Proofs.Model.Composition
import RelMap.Proofs.Persistence.Writing
import RelMap.Proofs.Session.Answer

/-!
# Saving an instance

What `Catalog.save` sends for an instance of a declared model, and what it changes of the instance.
The way that saving takes is known from the key; which of its statements are sent, whether saving
succeeds and which key the instance gets follows from what the replies of the driver tell
(`Catalog.save_sends`).
-/

namespace RelMap

/-! ## The instance that is saved -/

namespace Catalog

variable {catalog : Catalog} {i : Instance} {e : Entity} {key : Column} {d : Dialect}
  {value param : Column → Value} {s : Session}

/-- Setting an attribute leaves the others alone. -/
theorem attributeOf_set {name field : String} (h : name ≠ field) (i : Instance) (v : Value) :
    catalog.attributeOf (i.set field v) name = catalog.attributeOf i name := by
  unfold attributeOf Instance.set
  simp only [getPair?_putPair_of_ne h]

/-- What is kept of an instance when its key is set. -/
structure Keeps (catalog : Catalog) (e : Entity) (key : Column) (i j : Instance) : Prop where
  model : j.model = i.model
  attributes : ∀ name, key.fieldName ≠ .ok name →
    catalog.attributeOf j name = catalog.attributeOf i name
  others : ∀ c ∈ e.others, catalog.valueIn j c = catalog.valueIn i c

theorem Keeps.refl (catalog : Catalog) (e : Entity) (key : Column) (i : Instance) :
    catalog.Keeps e key i i := ⟨rfl, fun _ _ => rfl, fun _ _ => rfl⟩

/-- Setting the field of the key changes no other column: no two columns have one field. -/
theorem keeps_set (hcolumns : Column.Compatible e.columns) (hkey : e.key? = some key)
    {field : String} (hfield : key.fieldName = .ok field) (i : Instance) (v : Value) :
    catalog.Keeps e key i (i.set field v) := by
  have hattribute : ∀ name, key.fieldName ≠ .ok name →
      catalog.attributeOf (i.set field v) name = catalog.attributeOf i name := by
    intro name hname
    refine attributeOf_set (fun heq => hname ?_) i v
    rw [heq, hfield]
  refine ⟨rfl, hattribute, fun c hc => ?_⟩
  obtain ⟨hmem, hother⟩ := Entity.mem_others.mp hc
  unfold valueIn
  cases hname : c.fieldName with
  | error err => rfl
  | ok name =>
    refine hattribute name fun hsame => ?_
    obtain ⟨hkeyed, htruthy⟩ := Entity.mem_of_key hkey
    rw [hcolumns.eq_of_fieldName hmem hkeyed hname hsame, htruthy] at hother
    cases hother

/-- Writing an instance keeps all but its key, and a key that is set, too. -/
theorem write_keeps (hcolumns : Column.Compatible e.columns) (hkey : e.key? = some key)
    {j : Instance} {t : Session} (hj : catalog.write i e key value s = (.ok j, t)) :
    catalog.Keeps e key i j ∧ (value key ≠ .null → j = i) := by
  unfold write at hj
  split at hj
  · next hnull =>
    refine ⟨?_, fun hvalue => ?_⟩
    · obtain ⟨_, _, -, hj⟩ := Run.bind_eq_ok hj
      obtain ⟨a, _, -, hj⟩ := Run.bind_eq_ok hj
      obtain ⟨_, _, -, hj⟩ := Run.bind_eq_ok hj
      obtain ⟨r, _, -, hj⟩ := Run.bind_eq_ok hj
      obtain ⟨v, _, -, hj⟩ := Run.bind_eq_ok hj
      split at hj
      · cases hj
        exact .refl catalog e key i
      · obtain ⟨field, _, hfield, hj⟩ := Run.bind_eq_ok hj
        cases hj
        exact keeps_set hcolumns hkey (congrArg Prod.fst hfield) i v
    · cases h : value key with
      | null => exact (hvalue h).elim
      | _ =>
        rw [h] at hnull
        cases hnull
  · obtain ⟨b, _, -, hj⟩ := Run.bind_eq_ok hj
    have hsame : j = i := by
      split at hj
      · cases hj
        rfl
      · obtain ⟨_, _, -, hj⟩ := Run.bind_eq_ok hj
        obtain ⟨_, _, -, hj⟩ := Run.bind_eq_ok hj
        cases hj
        rfl
    rw [hsame]
    exact ⟨.refl catalog e key i, fun _ => rfl⟩

/-! ## What is sent -/

section Sent

variable (hkey : e.key? = some key)
  (hparam : ∀ c ∈ e.columns, (value c).toParameter = .ok (param c))

include hparam

theorem isParameter_of_others : ∀ p ∈ e.others.map param, p.isParameter = true := by
  intro p hp
  obtain ⟨c, hc, rfl⟩ := List.mem_map.mp hp
  exact isParameter_of_toParameter (hparam c (Entity.mem_others.mp hc).1)

include hkey

theorem isParameter_of_key : (param key).isParameter = true :=
  isParameter_of_toParameter (hparam key (Entity.mem_of_key hkey).1)

theorem isParameter_of_keyedRow (d : Dialect) :
    ∀ p ∈ (e.keyedRow d key param).params, p.isParameter = true :=
  List.forall_mem_cons.mpr ⟨isParameter_of_key hkey hparam, isParameter_of_others hparam⟩

/-- The insertion is sent behind another statement, where the row is not found. -/
theorem sends_keyedRow {st : Statement} (hst : ∀ p ∈ st.params, p.isParameter = true)
    {found : QueryResult → Prop} [DecidablePred found] :
    s.Sends ((st.run >>= fun r => if found r then pure i else do
        let _ ← (e.keyedRow s.adapter.dialect key param).run
        return i : Run Instance) s).2
      [st.sentIn s.adapter.dialect, (e.keyedRow s.adapter.dialect key param).sentIn
        s.adapter.dialect] := by
  refine Statement.run_sends hst fun r t hr => ?_
  have hdialect := Statement.dialect_of_run hr
  split
  · exact ⟨[], (List.append_nil _).symm, List.nil_prefix⟩
  · have hrow := isParameter_of_keyedRow hkey hparam s.adapter.dialect
    have hsends : t.Sends (((e.keyedRow s.adapter.dialect key param).run >>= fun _ =>
        (pure i : Run Instance)) t).2 [_] :=
      Statement.run_sends hrow fun r u _ => ⟨[], (List.append_nil u.sent).symm, List.nil_prefix⟩
    obtain ⟨new, hnew, hprefix, -⟩ := hsends
    rw [hdialect] at hprefix
    exact ⟨new, hnew, hprefix⟩

theorem isParameter_of_changedRow (d : Dialect) :
    ∀ p ∈ (e.changedRow d key param).params, p.isParameter = true :=
  List.forall_mem_append.mpr ⟨isParameter_of_others hparam,
    List.forall_mem_singleton.mpr (isParameter_of_key hkey hparam)⟩

theorem isParameter_of_soughtRow (d : Dialect) :
    ∀ p ∈ (e.soughtRow d key param).params, p.isParameter = true :=
  List.forall_mem_singleton.mpr (isParameter_of_key hkey hparam)

end Sent

/-! ## The key that is reported -/

end Catalog

/-- The key that the result of an insertion reports: the one in its first row where the dialect
returns columns, and the number of the row elsewhere. -/
inductive QueryResult.Reports (x : QueryResult) (d : Dialect) (key : Column) : Value → Prop
  | returned {row : Row} {rest : List Row} {v : Value} (hd : d.returning.truthy = true)
      (hrows : x.rows = row :: rest) (hv : row.get? key.name.text = some v) : Reports x d key v
  | nothing (hd : d.returning.truthy = true) (hrows : x.rows = []) : Reports x d key .null
  | numbered (hd : d.returning.truthy = false) : Reports x d key x.lastRowId

namespace Catalog

theorem reportedKey_eq_ok_iff {x : QueryResult} {d : Dialect} {key : Column} {v : Value} :
    reportedKey d key x = .ok v ↔ x.Reports d key v := by
  constructor
  · intro h
    unfold reportedKey at h
    split at h
    · next hd =>
      cases hrows : x.rows with
      | nil =>
        rw [QueryResult.first?, hrows] at h
        cases h
        exact .nothing hd hrows
      | cons row rest =>
        rw [QueryResult.first?, hrows, List.head?_cons] at h
        dsimp only at h
        split at h
        · next hv =>
          cases h
          exact .returned hd hrows hv
        · cases h
    · next hd =>
      cases h
      exact .numbered (Bool.not_eq_true _ ▸ hd)
  · intro h
    unfold reportedKey QueryResult.first?
    cases h with
    | returned hd hrows hv => simp [hd, hrows, hv]
    | nothing hd hrows => simp [hd, hrows]
    | numbered hd => simp [hd]

variable {catalog : Catalog} {i : Instance} {e : Entity} {key : Column} {d : Dialect}
  {value param : Column → Value} {s : Session}

/-- An instance without its key is inserted by one statement, and gets the key that is reported. -/
theorem newRow_goes (i : Instance) (key : Column) {c : Nat}
    (hparam : ∀ c ∈ e.columns, (value c).toParameter = .ok (param c))
    (hc : s.adapter.connection = some c) (field : String) :
    let r : Run Instance := do
      let x ← (e.newRow s.adapter.dialect key param).run
      let v ← Run.ofResult (reportedKey s.adapter.dialect key x)
      return if v.isNull then i else i.set field v
    (r s).2.sent = s.sent ++ (if s.reply.refused.isNone then
        [(e.newRow s.adapter.dialect key param).sentIn s.adapter.dialect] else []) ∧
      ∀ j, (r s).1 = .ok j ↔ ∃ x v, s.reply.Tells x ∧ x.Reports s.adapter.dialect key v ∧
        j = if v.isNull then i else i.set field v := by
  intro r
  have hparams : ∀ p ∈ (e.newRow s.adapter.dialect key param).params, p.isParameter = true :=
    isParameter_of_others hparam
  rcases Statement.run_cases hparams hc with
    ⟨err, t, hrun, hnone, hsent⟩ | ⟨x, t, hrun, htells, hsent, -, -⟩
  · have hr : r s = (.error err, t) := by
      simp only [r, Run.bind_apply, hrun]
    rw [hr]
    refine ⟨hsent, fun j => ⟨nofun, ?_⟩⟩
    rintro ⟨x, v, hx, -, -⟩
    exact (hnone x hx).elim
  · have hr : r s = ((reportedKey s.adapter.dialect key x).map
        fun v => if v.isNull then i else i.set field v, t) := by
      simp only [r, Run.bind_apply, hrun]
      cases reportedKey s.adapter.dialect key x <;> rfl
    rw [hr, htells.refused_eq_none]
    refine ⟨hsent, fun j => Result.map_eq_ok.trans ⟨?_, ?_⟩⟩
    · rintro ⟨v, hv, rfl⟩
      exact ⟨x, v, htells, reportedKey_eq_ok_iff.mp hv, rfl⟩
    · rintro ⟨y, v, hy, hv, rfl⟩
      rw [hy.unique htells] at hv
      exact ⟨v, reportedKey_eq_ok_iff.mpr hv, rfl⟩

/-- An instance without its key is written by inserting it. -/
theorem write_eq_insertNew (hvalue : value key = .null) : catalog.write i e key value s =
    catalog.insertNew i key (e.others.map fun c => (c.name, value c)) s := by
  unfold write
  rw [hvalue]
  rfl

/-- An instance that hides its insertion is refused before anything is sent. -/
theorem insertNew_hidden {err : Error} (h : catalog.offersOn i .insert = .error err)
    (data : List (Name × Value)) : catalog.insertNew i key data s = (.error err, s) := by
  unfold insertNew
  rw [h]
  rfl

/-- **Saving sends the statements of one way** and changes nothing but the key.

An instance that fails its checks, or has a value that is no parameter, is refused and nothing is
sent.  Otherwise, on a connection, the replies of the driver decide.  An instance without its key is
inserted by one statement, unless it hides its insertion or the driver grants no cursor, and gets
the key that the reply tells.  An instance with its key and other columns is written over its row,
and inserted exactly if the reply tells that no row was touched; an instance that has nothing but its
key is looked for, and inserted exactly if the reply tells of no row.  No other statements are sent
on these ways. -/
theorem save_sends (hcatalog : catalog.Declared) (he : catalog.entity i.model = .ok e)
    (hkey : e.key? = some key) (hd : s.adapter.dialect = d) :
    (((∃ err, catalog.selfCheck i = .error err) ∨
        ∃ c ∈ e.columns, ∃ err, (catalog.valueIn i c >>= Value.toParameter) = .error err) →
      ∃ err, catalog.save i s = (.error err, s)) ∧
    (s.adapter.connection.isSome = true → d.style.IsKnown →
      ∀ value param, catalog.Reads i e value →
      (∀ c ∈ e.columns, (value c).toParameter = .ok (param c)) →
      (value key = .null → ∃ field, key.fieldName = .ok field ∧
        (catalog.save i s).2.sent = s.sent ++
          (if (catalog.offersOn i .insert).isOk && s.reply.refused.isNone then
            [(e.newRow d key param).sentIn d] else []) ∧
        ∀ j, (catalog.save i s).1 = .ok j ↔ catalog.offersOn i .insert = .ok () ∧
          ∃ x v, s.reply.Tells x ∧ x.Reports d key v ∧
            j = if v.isNull then i else i.set field v) ∧
      (value key ≠ .null → e.others ≠ [] →
        (catalog.save i).FallsBack s ((e.changedRow d key param).sentIn d)
          ((e.keyedRow d key param).sentIn d) (fun x => 0 < x.rowCount) i) ∧
      (value key ≠ .null → e.others = [] →
        (catalog.save i).FallsBack s ((e.soughtRow d key param).sentIn d)
          ((e.keyedRow d key param).sentIn d) (fun x => x.rows ≠ []) i) ∧
      ∀ j t, catalog.save i s = (.ok j, t) →
        catalog.Keeps e key i j ∧ (value key ≠ .null → j = i)) := by
  subst hd
  have hcolumns := hcatalog.compatible he
  constructor
  · intro hrefused
    rcases reads_or_refused he with ⟨value, hreads⟩ | hdone
    · rw [save_eq_write hcatalog he hkey hreads]
      rcases hrefused with ⟨err, hcheck⟩ | ⟨c, hc, err, hvalue⟩
      · rw [hreads.checked] at hcheck
        cases hcheck
      · rw [hreads.values c hc] at hvalue
        exact write_refused hcatalog he hkey hvalue hc
    · exact hdone
  · intro hconnected hstyle value param hreads hparam
    obtain ⟨c, hc⟩ := Option.isSome_iff_exists.mp hconnected
    have hwrite := save_eq_write (s := s) hcatalog he hkey hreads
    obtain ⟨field, hfield, -⟩ :=
      Result.bind_eq_ok.mp (hreads.values key (Entity.mem_of_key hkey).1)
    refine ⟨fun hvalue => ⟨field, hfield, ?_⟩, fun hvalue hothers => ?_, fun hvalue hothers => ?_,
      fun j t hj => ?_⟩
    · rw [hwrite, write_eq_insertNew hvalue]
      cases hoffered : catalog.offersOn i .insert with
      | error err =>
        rw [insertNew_hidden hoffered]
        exact ⟨(List.append_nil _).symm, fun j => ⟨nofun, fun h => nomatch h.1⟩⟩
      | ok u =>
        obtain ⟨hsent, hends⟩ := newRow_goes i key hparam hc field
        rw [insertNew_eq hcatalog he hkey hparam hstyle hoffered hfield]
        exact ⟨hsent, fun j => (hends j).trans (and_iff_right rfl).symm⟩
    · refine .congr (hwrite.trans (write_update hcatalog he hkey hparam hstyle hvalue hothers)) ?_
      exact Statement.fallsBack (isParameter_of_changedRow hkey hparam _)
        (isParameter_of_keyedRow hkey hparam _) hc (fun x => 0 < x.rowCount) i
    · refine .congr (hwrite.trans (write_search hcatalog he hkey hparam hstyle hvalue hothers)) ?_
      have hfound : (fun x : QueryResult => x.rows ≠ []) = fun x => x.first?.isSome = true := by
        funext x
        cases hrows : x.rows <;> simp [QueryResult.first?, hrows]
      rw [hfound]
      exact Statement.fallsBack (isParameter_of_soughtRow hkey hparam _)
        (isParameter_of_keyedRow hkey hparam _) hc (fun x => x.first?.isSome = true) i
    · rw [hwrite] at hj
      exact write_keeps hcolumns hkey hj

/-! ### A user -/

def userModel : ModelId := ⟨"User", 0⟩

/-- The fields of users: a key and a name. -/
def userBody : List FieldSpec :=
  [⟨"id", .type .nullType, .object (.value .null)
      (.options { type := .sqlType .integer, nullable := .bool false, isKey := .bool true })⟩,
    ⟨"name", .type .nullType, .object (.value .null)
      (.options { type := .sqlType .text, nullable := .bool false })⟩]

def userColumns : List Column :=
  [⟨.plain "id", .integer, .bool false, .bool false, .bool true, .text "id", .null⟩,
    ⟨.plain "name", .text, .bool false, .bool false, .bool false, .text "name", .null⟩]

def users : Catalog :=
  ((Catalog.empty.declare userModel none true userBody).mapModel .shared userModel
    (.text "users")).1

def ann : Instance := ⟨userModel, [("id", .int 7), ("name", .text "Ann")]⟩

def annValue (c : Column) : Value := if c.name.text = "id" then .int 7 else .text "Ann"

/-- A connected adapter whose driver touches no rows. -/
def untouched : Session :=
  { adapter := { dialect := .sqlite, backend := .generic, connection := some 0 } }

theorem users_declared : users.Declared :=
  (Declared.empty.declare userModel none true userBody).mapModel .shared userModel (.text "users")

theorem ann_reads : users.Reads ann ⟨userModel, .plain "users", userColumns⟩ annValue := by
  refine ⟨⟨rfl, rfl⟩, rfl, fun c hc => ?_⟩
  simp only [userColumns, List.mem_cons, List.not_mem_nil, or_false] at hc
  rcases hc with rfl | rfl <;> rfl

/-- A connected adapter whose driver follows one more reply. -/
def answering (r : Reply) : Session := { untouched with script := { replies := [r] } }

/-- A user who has no key yet. -/
def bob : Instance := ⟨userModel, [("id", .null), ("name", .text "Bob")]⟩

def bobValue (c : Column) : Value := if c.name.text = "id" then .null else .text "Bob"

theorem bob_reads : users.Reads bob ⟨userModel, .plain "users", userColumns⟩ bobValue := by
  refine ⟨⟨rfl, rfl⟩, rfl, fun c hc => ?_⟩
  simp only [userColumns, List.mem_cons, List.not_mem_nil, or_false] at hc
  rcases hc with rfl | rfl <;> rfl

/-- Ann's row is not there, then it is; Bob gets the key that comes back. -/
theorem save_sends_ann :
    (users.save ann (answering {})).2.sent =
        [("UPDATE users SET name = ? WHERE id = ?", [[.text "Ann", .int 7]]),
          ("INSERT INTO users (id, name) VALUES (?, ?)", [[.int 7, .text "Ann"]])] ∧
      (users.save ann (answering { rowCount := .count 1 })).2.sent =
        [("UPDATE users SET name = ? WHERE id = ?", [[.text "Ann", .int 7]])] ∧
      (users.save bob (answering { columns := some ["id"], rows := [.value (.tuple [.int 8])] })).1 =
        .ok ⟨userModel, [("id", .int 8), ("name", .text "Bob")]⟩ := by
  have hentity : users.entity userModel = .ok ⟨userModel, .plain "users", userColumns⟩ := by rfl
  have hparam (value : Column → Value) (h : ∀ c ∈ userColumns, (value c).isParameter = true) :
      ∀ c ∈ userColumns, (value c).toParameter = .ok (value c) :=
    fun c hc => toParameter_of_isParameter (h c hc)
  have hann (r : Reply) := ((save_sends (s := answering r) users_declared hentity rfl rfl).2 rfl
    trivial annValue annValue ann_reads (hparam annValue (by decide))).2.1 nofun nofun
  have hbob (r : Reply) := ((save_sends (s := answering r) users_declared hentity rfl rfl).2 rfl
    trivial bobValue bobValue bob_reads (hparam bobValue (by decide))).1 rfl
  refine ⟨?_, ?_, ?_⟩
  · obtain ⟨rest, hsent, -, hiff⟩ := (hann {}).sent rfl
    have hnone : RowCount.ComesTo (.count (-1)) 0 := .nothing (by rintro n ⟨⟩; decide)
    have htells : Reply.Tells {} { rowCount := 0 } := .effect rfl rfl hnone
    rw [hiff.mpr ⟨⟨_, htells, by decide⟩, rfl⟩] at hsent
    exact hsent
  · obtain ⟨rest, hsent, hrest, hiff⟩ := (hann { rowCount := .count 1 }).sent rfl
    have htells : Reply.Tells { rowCount := .count 1 } { rowCount := 1 } :=
      .effect rfl rfl (.positive (n := 1) (by decide))
    rcases hrest with rfl | hrest
    · exact hsent
    · obtain ⟨⟨x, hx, hnone⟩, -⟩ := hiff.mp hrest
      rw [hx.unique htells] at hnone
      exact (hnone (by decide)).elim
  · obtain ⟨field, hfield, -, hiff⟩ := hbob
      { columns := some ["id"], rows := [.value (.tuple [.int 8])] }
    cases hfield
    have htells := Reply.Tells.result
      (r := { columns := some ["id"], rows := [.value (.tuple [.int 8])] }) rfl rfl nofun rfl
      (.cons (.tuple [.int 8]) .nil)
    exact (hiff _).mpr ⟨rfl, _, _, htells, .returned rfl rfl rfl, rfl⟩

end Catalog

end RelMap
