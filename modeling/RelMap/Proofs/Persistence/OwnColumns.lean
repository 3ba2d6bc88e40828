import RelMap.Proofs.Persistence.Saving
import RelMap.Proofs.Query.Known

/-!
# Statements name their own columns

A statement that was made for a model names the model's table and columns of the model, and nothing
else.  The operations that find, save and delete instances make such statements themselves, so they
never fail for an unknown column, whatever names the columns were given.
-/

namespace RelMap

open Result

variable {α β : Type} {P : α → Prop}

/-! ## Programs -/

namespace Run

/-- The program never fails for an unknown column. -/
def Knows (r : Run α) : Prop := ∀ s, (r s).1.Knows

theorem Knows.ne {r : Run α} (h : r.Knows) (s : Session) (column : Value) (model : String)
    (table : Name) : (r s).1 ≠ .error (.unknownColumn column model table) :=
  (h s).ne column model table

namespace Knows

theorem ofResult {x : Result α} (h : x.Knows) : (Run.ofResult x).Knows := fun _ => h

theorem pure (x : α) : (Pure.pure x : Run α).Knows := fun _ => trivial

theorem bind {r : Run α} {f : α → Run β} (hr : r.Knows) (hf : ∀ a, (f a).Knows) :
    (r >>= f).Knows := by
  intro s
  have hs := hr s
  rw [bind_apply]
  rcases h : r s with ⟨e | a, t⟩ <;> rw [h] at hs
  · exact hs.error
  · exact hf a t

/-- What is known of the result of a check may be used by the program that follows. -/
theorem ofResult_bind {x : Result α} {f : α → Run β} (hx : x.Yields P)
    (hf : ∀ a, P a → (f a).Knows) : (Run.ofResult x >>= f).Knows := by
  intro s
  cases x with
  | ok a => exact hf a hx s
  | error e => exact hx.error

theorem check (g : Option Signal) : (Run.check g).Knows := by
  cases g <;> exact fun _ => trivial

theorem always {r : Run α} {last : Run Unit} (hr : r.Knows) (hl : last.Knows) :
    (r.always last).Knows := by
  intro s
  have hs := hl (r s).2
  rw [always_apply]
  rcases h : last (r s).2 with ⟨e | u, t⟩ <;> rw [h] at hs
  · exact hs.error
  · exact hr s

theorem onDriverError {r : Run α} {answer : String → Run α} (hr : r.Knows)
    (ha : ∀ m, (answer m).Knows) : (r.onDriverError answer).Knows := by
  intro s
  rw [onDriverError_apply]
  split
  · next m _ => exact ha m (r s).2
  · exact hr s

theorem withCursor {connection : Nat} {body : Nat → Reply → Run α}
    (hbody : ∀ cursor reply, (body cursor reply).Knows) :
    (Run.withCursor connection body).Knows := by
  intro s
  rw [withCursor_apply]
  split
  · trivial
  · refine (hbody _ _).always ?_ _
    unfold closeCursor
    split
    · exact bind (fun _ => trivial) fun _ => check _
    · exact pure ()

end Knows

theorem requireConnection_knows : requireConnection.Knows := by
  intro s
  cases h : s.adapter.connection with
  | none =>
    rw [requireConnection_of_disconnected h]
    trivial
  | some c =>
    rw [requireConnection_of_connected h]
    trivial

end Run

theorem bindParams_knows (d : Dialect) (params : Value) : (bindParams d params).Knows := by
  unfold bindParams
  split
  · trivial
  · trivial
  · trivial
  · split
    · trivial
    · split
      · exact (toParameters_knows _).map fun _ _ => trivial
      · trivial

theorem DriverRow.toRow_knows (names : List String) (r : DriverRow) : (r.toRow names).Knows := by
  unfold toRow
  split <;> trivial

theorem Run.readResult_knows (cursor : Nat) (reply : Reply) : (readResult cursor reply).Knows := by
  unfold readResult
  split
  · exact .pure _
  · refine .bind (fun _ => trivial) fun _ => (Knows.check _).bind fun _ => ?_
    exact (Knows.ofResult (knows_mapM fun r _ => r.toRow_knows _)).bind fun _ => .pure _

theorem Run.execute_knows (sql : String) (params : Value) : (Run.execute sql params).Knows := by
  refine requireConnection_knows.bind fun connection => ?_
  refine .bind (fun _ => trivial) fun a => ?_
  refine (Knows.ofResult (bindParams_knows a.dialect params)).bind fun bound => ?_
  refine .bind (fun _ => trivial) fun _ => .bind (.onDriverError (.withCursor ?_) ?_) ?_
  · intro cursor reply
    exact .bind (fun _ => trivial) fun _ => (Knows.check _).bind fun _ => readResult_knows _ _
  · exact fun message => .bind (fun _ => trivial) fun _ _ => trivial
  · exact fun result => .bind (fun _ => trivial) fun _ => .pure _

theorem Query.execute_knows {q : Query} {catalog : Catalog} {m : ModelId}
    (hq : q.IsOwn catalog m) : (q.execute catalog).Knows := by
  refine .bind (fun _ => trivial) fun a => ?_
  exact .ofResult_bind (build_knows hq a.dialect) fun st _ => Run.execute_knows _ _

/-! ## Loading and checking instances -/

theorem Column.fieldName_knows (c : Column) : c.fieldName.Knows := by
  unfold fieldName
  split <;> trivial

theorem Column.load_knows (c : Column) (v : Value) : (c.load v).Knows := by
  unfold load
  split
  · trivial
  · split
    · exact knows_getD _ _ _
    · trivial
  · split
    · exact knows_getD _ _ _
    · trivial
  · exact .ite (knows_getD _ _ _) trivial
  · trivial

theorem Entity.load_knows (e : Entity) (r : Row) : (e.load r).Knows := by
  refine (knows_mapM fun c _ => ?_).bind fun _ _ => trivial
  split
  · trivial
  · exact c.fieldName_knows.bind fun _ _ => (c.load_knows _).bind fun _ _ => trivial

theorem Value.isBelow_knows (v : Value) (n : Nat) : (v.isBelow n).Knows := by
  unfold isBelow
  split
  · trivial
  · exact knows_getD _ id _
  · split <;> trivial

theorem Column.validate_knows (c : Column) (v : Value) : (c.validate v).Knows := by
  have hlong : (c.isTooLong v).Knows := by
    unfold isTooLong
    split
    · split
      · exact c.length.isBelow_knows _
      · trivial
    · trivial
  unfold validate
  split
  · split <;> trivial
  · refine hlong.bind fun b _ => ?_
    split <;> trivial

namespace Catalog

variable (catalog : Catalog)

theorem instantiate_knows (m : ModelId) (arguments : Arguments) :
    (catalog.instantiate m arguments).Knows := by
  unfold instantiate
  split
  · next fields _ =>
    refine Yields.map (P := fun _ => True) ?_ fun _ _ => trivial
    unfold ModelClass.instantiate
    split <;> trivial
  · split <;> trivial

theorem load_knows (m : ModelId) (r : Row) : (catalog.load m r).Knows :=
  (catalog.offers_knows m .load).bind fun _ _ => (catalog.entity_yields m).bind fun e _ =>
    (e.load_knows r).bind fun _ _ => catalog.instantiate_knows m _

theorem valueIn_knows (i : Instance) (c : Column) : (catalog.valueIn i c).Knows := by
  refine c.fieldName_knows.bind fun name _ => ?_
  unfold attributeOf
  split
  · trivial
  · split <;> trivial

theorem selfCheck_knows (i : Instance) : (catalog.selfCheck i).Knows := by
  refine (catalog.offersOn_knows i .validate).bind fun _ _ => ?_
  refine (catalog.entity_yields i.model).bind fun e _ => knows_forM fun c _ => ?_
  exact (catalog.valueIn_knows i c).bind fun v _ => c.validate_knows v

variable {catalog} {i : Instance} {m : ModelId} {e : Entity} {key : Column}

/-- The values of an instance stand under the names of columns. -/
theorem dictionary_yields (he : catalog.entity i.model = .ok e) :
    (catalog.dictionary i).Yields fun values => ∀ p ∈ values, p.1.text ∈ e.columnNames := by
  refine (catalog.offersOn_knows i .columnValues).bind fun _ _ => ?_
  rw [he]
  have hnames : (catalog.columnValues e i).Yields fun values =>
      values.map Prod.fst = e.columns.map Column.name :=
    .mapM fun c _ => (catalog.valueIn_knows i c).map fun _ _ => rfl
  refine hnames.mono fun values hvalues p hp => ?_
  have hname : p.1 ∈ e.columns.map Column.name := hvalues ▸ List.mem_map_of_mem hp
  obtain ⟨c, hc, hname⟩ := List.mem_map.mp hname
  exact List.mem_map.mpr ⟨c, hc, congrArg Name.text hname⟩

theorem reportedKey_knows (d : Dialect) (key : Column) (r : QueryResult) :
    (reportedKey d key r).Knows := by
  unfold reportedKey
  split
  · split
    · split <;> trivial
    · trivial
  · trivial

/-! ## Operations -/

theorem get_knows (catalog : Catalog) (m : ModelId) (v : Value) : (catalog.get m v).Knows := by
  refine .ofResult_bind (P := fun q => q.IsOwn catalog m) ?_ fun q hq => ?_
  · refine (catalog.offers_knows m .get).bind fun _ _ => ?_
    refine (catalog.entity_yields m).bind fun e he => ?_
    refine e.requireKey_yields.bind fun key hkey => ?_
    refine (Query.ofModel_yields catalog m).bind fun q hq => ?_
    exact (Query.whereKey_yields he hq hkey v).bind fun q hq => Query.limitOne_yields hq
  · refine (Query.execute_knows hq).bind fun r => ?_
    split
    · exact .ofResult_bind (catalog.load_knows m _) fun _ _ => .pure _
    · exact .pure _

theorem all_knows (catalog : Catalog) (m : ModelId) : (catalog.all m).Knows := by
  refine .ofResult_bind (P := fun q => q.IsOwn catalog m) ?_ fun q hq => ?_
  · exact (catalog.offers_knows m .all).bind fun _ _ => Query.ofModel_yields catalog m
  · refine (Query.execute_knows hq).bind fun r => ?_
    exact .ofResult (knows_mapM fun row _ => catalog.load_knows m row)

theorem insertion_yields (he : catalog.entity m = .ok e) (hkey : key ∈ e.columns) (d : Dialect)
    {data : List (Name × Value)} (hdata : ∀ p ∈ data, p.1.text ∈ e.columnNames) :
    (catalog.insertion d m key data).Yields fun q => q.IsOwn catalog m := by
  have hreturned : ∀ q : Query, q.IsOwn catalog m → Yields (fun q => q.IsOwn catalog m)
      (if d.returning.truthy then q.returningColumns [key.name.toValue] else .ok q) := by
    intro q hq
    split
    · exact Query.returningKey_yields he hq hkey
    · exact hq
  unfold insertion
  dsimp only
  split
  · exact (Query.insertDefaults_yields catalog m).bind hreturned
  · exact (Query.insert_yields he hdata).bind hreturned

section Writing

variable (he : catalog.entity i.model = .ok e) (hkey : key ∈ e.columns)
  {data : List (Name × Value)} (hdata : ∀ p ∈ data, p.1.text ∈ e.columnNames)

include he hkey hdata

theorem insertNew_knows : (catalog.insertNew i key data).Knows := by
  refine .ofResult_bind (catalog.offersOn_knows i .insert) fun _ _ => ?_
  refine .bind (fun _ => trivial) fun a => ?_
  refine .ofResult_bind (insertion_yields he hkey a.dialect hdata) fun q hq => ?_
  refine (Query.execute_knows hq).bind fun r => ?_
  refine .ofResult_bind (reportedKey_knows _ key r) fun v _ => ?_
  split
  · exact .pure _
  · exact .ofResult_bind key.fieldName_knows fun _ _ => .pure _

theorem overwrite_knows (v : Value) : (catalog.overwrite i.model key v data).Knows := by
  unfold overwrite
  split
  · refine .ofResult_bind (P := fun q => q.IsOwn catalog i.model) ?_ fun q hq => ?_
    · rw [← bind_assoc]
      refine (Query.selectOne_yields he (Query.names_of_mem hkey)).bind fun q hq => ?_
      exact (Query.whereKey_yields he hq hkey v).bind fun q hq => Query.limitOne_yields hq
    · exact (Query.execute_knows hq).bind fun _ => .pure _
  · refine .ofResult_bind (P := fun q => q.IsOwn catalog i.model) ?_ fun q hq => ?_
    · exact (Query.update_yields he hdata).bind fun q hq => Query.whereKey_yields he hq hkey v
    · exact (Query.execute_knows hq).bind fun _ => .pure _

end Writing

theorem save_knows (catalog : Catalog) (i : Instance) : (catalog.save i).Knows := by
  refine .ofResult_bind (P := fun p => ∃ e, catalog.entity i.model = .ok e ∧
    p.1 ∈ e.columns ∧ ∀ entry ∈ p.2, entry.1.text ∈ e.columnNames) ?_ ?_
  · refine (catalog.offersOn_knows i .save).bind fun _ _ => ?_
    refine (catalog.entity_yields i.model).bind fun e he => ?_
    refine e.requireKey_yields.bind fun key hkey => ?_
    refine (catalog.selfCheck_knows i).bind fun _ _ => ?_
    exact (dictionary_yields he).bind fun values hvalues => ⟨e, he, hkey, hvalues⟩
  · rintro ⟨key, values⟩ ⟨e, he, hkey, hvalues⟩
    have hdata : ∀ p ∈ values.filter fun p => p.1.text ≠ key.name.text,
        p.1.text ∈ e.columnNames := fun p hp => hvalues p (List.mem_filter.mp hp).1
    have hname : key.name.text ∈ e.columnNames := List.mem_map.mpr ⟨key, hkey, rfl⟩
    dsimp only
    split
    · exact insertNew_knows he hkey hdata
    · refine (overwrite_knows he hkey hdata _).bind fun found => ?_
      split
      · exact .pure _
      · refine .ofResult_bind (Query.insert_yields he ?_) fun q hq => ?_
        · exact List.forall_mem_cons.mpr ⟨hname, hdata⟩
        · exact (Query.execute_knows hq).bind fun _ => .pure _

theorem delete_knows (catalog : Catalog) (i : Instance) : (catalog.delete i).Knows := by
  refine .ofResult_bind (P := fun q => q.IsOwn catalog i.model) ?_ fun q hq => ?_
  · refine (catalog.offersOn_knows i .delete).bind fun _ _ => ?_
    refine (catalog.entity_yields i.model).bind fun e he => ?_
    refine e.requireKey_yields.bind fun key hkey => ?_
    refine (catalog.valueIn_knows i key).bind fun v _ => ?_
    split
    · trivial
    · refine (Query.delete_yields catalog i.model).bind fun q hq => ?_
      exact Query.whereKey_yields he hq hkey v
  · exact (Query.execute_knows hq).bind fun _ => .pure _

/-! ## Statements -/

/-- **Statements made for a model name the columns of the model.**

The last call that names a table decides.  If it was given a model, a statement that can be written
mentions only columns that the model has by then, and the table that the model had at the time of
the call.  So the characters of all names in the statement are those of the table and of columns,
and the statement has these characters exactly if no name in running text stands under a label.  If
the call was given a value, what is written does not depend on what is declared.

The operations of models never fail for an unknown column. -/
theorem statements_name_own_columns (catalog : Catalog) (d : Dialect) :
    (∀ (before after : List (Catalog × BuilderCall)) (call : BuilderCall) (target : ModelTerm)
        (declared : Catalog) (q : Query),
      call.target? = some target → (∀ c ∈ after, c.2.keepsTarget = true) →
      Query.runTimed {} (before ++ (declared, call) :: after) = .ok q →
      (∀ m st, target.evaluate declared = .ok (.model m) → q.build catalog d = .ok st →
        ∃ old e k, declared.entity m = .ok old ∧ q.table = old.table.toValue ∧
          catalog.entity m = .ok e ∧ (∀ v ∈ q.mentioned, Query.names e v = true) ∧
          Kind.ofValue? q.kind = some k ∧
          Piece.write d.style 1 (q.pieces k d) = .ok st.sql ∧
          Query.NameOnly e old.table.text (Piece.texts (q.pieces k d)) ∧
          (Piece.names (q.pieces k d) = Piece.texts (q.pieces k d) ↔
            Piece.Unlabelled (q.pieces k d))) ∧
      ∀ v, target.evaluate declared = .ok (.value v) →
        q.table = v ∧ ∀ other, q.build other d = q.build catalog d) ∧
    ∀ (s : Session) (column : Value) (model : String) (table : Name),
      (∀ m v, (catalog.get m v s).1 ≠ .error (.unknownColumn column model table)) ∧
      (∀ m, (catalog.all m s).1 ≠ .error (.unknownColumn column model table)) ∧
      (∀ i, (catalog.save i s).1 ≠ .error (.unknownColumn column model table)) ∧
      ∀ i, (catalog.delete i s).1 ≠ .error (.unknownColumn column model table) := by
  constructor
  · intro before after call target declared q hcall hafter hrun
    have htarget := Query.target_of_runTimed hcall hafter hrun
    obtain ⟨argument, hargument, htarget⟩ := Result.bind_eq_ok.mp htarget
    constructor
    · intro m st hm hst
      cases hargument.symm.trans hm
      obtain ⟨old, hold, htarget⟩ := Result.bind_eq_ok.mp htarget
      obtain ⟨htable, hmodel⟩ := Prod.mk.inj (Except.ok.inj htarget)
      obtain ⟨k, hk, hst⟩ := Result.bind_eq_ok.mp hst
      obtain ⟨sql, hsql, hst⟩ := Result.bind_eq_ok.mp hst
      cases hst
      obtain ⟨e, he, hmentioned⟩ := Query.names_of_validate hmodel.symm hk
      obtain ⟨-, -, hkind⟩ := Query.validate_eq_ok hk
      exact ⟨old, e, k, hold, htable.symm, he, hmentioned, hkind, hsql,
        Query.nameOnly_texts htable.symm hmentioned k d,
        Piece.names_eq_texts_iff (Query.textOf?_of_mem_pieces htable.symm hmentioned)⟩
    · intro v hv
      cases hargument.symm.trans hv
      obtain ⟨_, -, htarget⟩ := Result.bind_eq_ok.mp htarget
      obtain ⟨htable, hmodel⟩ := Prod.mk.inj (Except.ok.inj htarget)
      exact ⟨htable.symm, fun other => Query.build_eq_of_model_none hmodel.symm other catalog d⟩
  · intro s column model table
    exact ⟨fun m v => (catalog.get_knows m v).ne s column model table,
      fun m => (catalog.all_knows m).ne s column model table,
      fun i => (catalog.save_knows i).ne s column model table,
      fun i => (catalog.delete_knows i).ne s column model table⟩

/-- The users, whose table was renamed and got a column. -/
def people : Catalog :=
  users.withRegistry .shared ⟨[(userModel, ⟨.plain "people", userColumns ++
    [⟨.plain "age", .integer, .bool true, .bool false, .bool false, .text "age", .null⟩], true⟩)]⟩

/-- The selection of users, made before the table is renamed and the column added. -/
def usersOfAge : Query where
  kind := Kind.select.toValue
  table := .text "users"
  model := some userModel
  columns := [.text "*"]
  conditions := [{ column := .text "age", operator := .text "=", value := .int 3 }]

theorem statements_name_own_columns_users : ∃ q k st e,
    Query.runTimed {} [(users, .select (.text "*") (.bool false)),
      (users, .fromTable (.argument (.model userModel))),
      (people, .whereColumn (.text "age") (.text "=") (.int 3))] = .ok q ∧
    q.build people .sqlite = .ok st ∧ st.sql = "SELECT * FROM users WHERE age = ?" ∧
    people.entity userModel = .ok e ∧
    Query.NameOnly e "users" (Piece.names (q.pieces k .sqlite)) := by
  have hrun : Query.runTimed {} [(users, .select (.text "*") (.bool false)),
      (users, .fromTable (.argument (.model userModel))),
      (people, .whereColumn (.text "age") (.text "=") (.int 3))] = .ok usersOfAge := by rfl
  have hbuild : usersOfAge.build people .sqlite =
      .ok ⟨"SELECT * FROM users WHERE age = ?", [.int 3]⟩ := by rfl
  have hown := ((statements_name_own_columns people .sqlite).1
    [(users, .select (.text "*") (.bool false))]
    [(people, .whereColumn (.text "age") (.text "=") (.int 3))]
    (.fromTable (.argument (.model userModel))) _ users _ rfl (by decide) hrun).1 userModel _ rfl
    hbuild
  obtain ⟨old, e, k, hold, -, he, -, hkind, -, honly, hnames⟩ := hown
  cases hold
  cases hkind
  have hplain : Piece.Unlabelled (usersOfAge.pieces .select .sqlite) := by
    intro v hv
    change Piece.name v ∈ [.fixed "SELECT ", .listed (.text "*"), .fixed " FROM ",
      .name (.text "users"), .fixed " WHERE ", .name (.text "age"), .fixed " ",
      .operator (.text "="), .fixed " ", .hole (.int 3)] at hv
    simp only [List.mem_cons, Piece.name.injEq, reduceCtorEq, List.not_mem_nil, false_or,
      or_false] at hv
    rcases hv with rfl | rfl <;> rfl
  exact ⟨_, _, _, e, hrun, hbuild, rfl, he, hnames.mpr hplain ▸ honly⟩

/-- A column that is given by a labelled constant is checked by its characters and written under its
label, which is the name of no column. -/
theorem labelled_column_not_own : ∃ q st e,
    Query.runTimed {} [(users, .select (.text "*") (.bool false)),
      (users, .fromTable (.argument (.model userModel))),
      (users, .whereColumn (.textConstant ⟨"E", "M"⟩ "name") (.text "=") (.text "Ann"))] = .ok q ∧
    q.build users .sqlite = .ok st ∧ st.sql = "SELECT * FROM users WHERE E.M = ?" ∧
    users.entity userModel = .ok e ∧ "E.M" ∈ Piece.names (q.pieces .select .sqlite) ∧
    "E.M" ∉ e.columnNames := by
  refine ⟨{ usersOfAge with conditions := [{
    column := .textConstant ⟨"E", "M"⟩ "name", operator := .text "=", value := .text "Ann" }] },
    ⟨"SELECT * FROM users WHERE E.M = ?", [.text "Ann"]⟩, ⟨userModel, .plain "users", userColumns⟩,
    rfl, rfl, rfl, rfl, ?_, ?_⟩
  · decide
  · decide

end Catalog

end RelMap
