import Mathlib.Data.List.Forall2
import RelMap.Proofs.Persistence.Saving
import RelMap.Proofs.Registry.History
import RelMap.Proofs.Session.Lifecycle
import RelMap.Proofs.Session.Sent

/-!
# Creating tables

`Catalog.applySchema` creates the tables of some models in one transaction.  All statements are
written before the first one is sent, so a model that is not registered costs nothing.  What is then
called is a history that takes one of three courses (`TableCreation`): the transaction does not
begin; all tables are created, and then the transaction is committed; or one is not, nothing more is
created, and the transaction is rolled back.
-/

namespace RelMap

/-! ## Calls that run one statement -/

/-- The only statement that an exchange has the driver run is its own. -/
theorem Exchange.eq_of_execute {c n m : Nat} {sql sql' : String} {params params' : List Value}
    {closes : Bool} {calls : List Call} (h : Exchange c n (.execute n sql params) closes calls)
    (hk : .execute m sql' params' ∈ calls) : sql' = sql := by
  cases h with
  | refused => cases List.mem_singleton.mp hk
  | granted hfetches =>
    rcases List.mem_cons.mp hk with hk | hk
    · cases hk
    rcases List.mem_cons.mp hk with hk | hk
    · cases hk
      rfl
    rcases List.mem_append.mp hk with hk | hk
    · cases hfetches _ hk
    · split at hk
      · cases List.mem_singleton.mp hk
      · cases hk

namespace Occurrence

/-- The operation was called, and the call had the driver run a statement without parameters on the
connection: it was asked for that in one exchange and for nothing else, and it was sent the
statement if the call returned. -/
structure Tries (o : Occurrence) (call : AdapterCall) (c : Nat) (sql : String) : Prop where
  call : o.call = call
  exchange : Exchange c o.before.calls.length (.execute o.before.calls.length sql [])
    o.before.reply.closes o.asked
  sent : ∀ x, o.outcome = .ok x → o.asked.filterMap Call.statement? = [(sql, [[]])]

/-- The call created a table: it returned after the driver ran the statement. -/
def Creates (c : Nat) (o : Occurrence) (sql : String) : Prop :=
  o.Tries (.execute sql .null) c sql ∧ ∃ x, o.outcome = .ok x

variable {o : Occurrence} {s : Session} {c : Nat}

/-- A call of the caller's own statement, as an exchange. -/
theorem tries_execute (hc : s.adapter.connection = some c) (sql : String) :
    Tries ⟨.execute sql .null, s⟩ (.execute sql .null) c sql := by
  have hrun : Run.execute sql .null s = Run.executeOn c sql [] s := by
    rw [Run.execute_of_connected hc]
    rfl
  have hafter : after ⟨.execute sql .null, s⟩ = (Run.executeOn c sql [] s).2 := by
    rw [after, AdapterCall.run, Run.map_apply, hrun]
  have hout : outcome ⟨.execute sql .null, s⟩ = (Run.executeOn c sql [] s).1.map some := by
    rw [outcome, AdapterCall.run, Run.map_apply, hrun]
  obtain ⟨new, hnew, hexchange⟩ := Run.executeOn_exchange c sql [] s
  obtain ⟨hasked, -⟩ := calls_of_new ⟨.execute sql .null, s⟩ (by rw [hafter, hnew])
  refine ⟨rfl, by rw [hasked]; exact hexchange, fun x hx => ?_⟩
  -- a call for which no cursor is granted does not return
  have hgranted : s.reply.refused = none := by
    cases hg : s.reply.refused with
    | none => rfl
    | some g =>
      obtain ⟨e, t, herror⟩ : ∃ e t, Run.executeOn c sql [] s = (.error e, t) :=
        Run.executeOn_refused hg
      rw [hout, herror] at hx
      cases hx
  have hsent := Run.executeOn_sent c sql [] s
  rw [hgranted, Session.sent, hnew, List.filterMap_append] at hsent
  rw [hasked]
  exact List.append_cancel_left hsent

/-- A call that runs a control statement, as an exchange. -/
theorem tries_of_controlCalls {call : AdapterCall} {sql : String} (hcall : o.call = call)
    (hnew : o.after.calls =
      o.before.calls ++ o.before.reply.controlCalls c o.before.calls.length sql)
    (hok : ∀ x, o.outcome = .ok x → o.before.reply.raises = none) : o.Tries call c sql := by
  obtain ⟨hasked, -⟩ := calls_of_new o hnew
  refine ⟨hcall, ?_, fun x hx => ?_⟩
  · rw [hasked]
    exact Reply.exchange_controlCalls _ c _ sql
  · rw [hasked, Reply.controlCalls, Reply.refused_of_raises (hok x hx)]
    dsimp only
    split <;> rfl

/-- A call that moves the flag behind its control statement: it returns and the flag is moved, or it
fails. -/
theorem tries_then_setTransaction {call : AdapterCall} {r : Run Unit} {sql : String} {active : Bool}
    {ev : Event} (hcall : call.run = (fun _ => none) <$> r)
    (hr : r s = (do Run.controlOn c sql; Run.setTransaction active; Run.report ev : Run Unit) s) :
    Tries ⟨call, s⟩ call c sql ∧
      ((r s).1 = .ok () ∧ (r s).2.adapter = { s.adapter with inTransaction := active } ∨
        ∃ e, (r s).1 = .error e) := by
  obtain ⟨x, t, hrun, hnew, hgo⟩ := Run.controlOn_then_setTransaction c sql active ev s
  rw [← hr] at hrun
  have hafter : after ⟨call, s⟩ = t := by rw [after, hcall, Run.map_apply, hrun]
  have hout : outcome ⟨call, s⟩ = x.map fun _ => none := by
    rw [outcome, hcall, Run.map_apply, hrun]
  refine ⟨tries_of_controlCalls rfl (by rw [hafter, hnew]) fun y hy => ?_, ?_⟩
  · rcases hgo with ⟨hraises, -, -⟩ | ⟨-, ⟨e, rfl, -⟩, -⟩
    · exact hraises
    · rw [hout] at hy
      cases hy
  · rw [hrun]
    rcases hgo with ⟨-, hx, hadapter⟩ | ⟨-, ⟨e, hx, -⟩, -⟩
    · exact Or.inl ⟨hx, hadapter⟩
    · exact Or.inr ⟨e, hx⟩

theorem tries_rollback (hc : s.adapter.connection = some c) (ht : s.adapter.inTransaction = true) :
    Tries ⟨.rollback, s⟩ .rollback c "ROLLBACK" := by
  obtain ⟨x, t, hroll, hnew, -, -⟩ := Run.rollback_of_active hc ht
  have hafter : after ⟨.rollback, s⟩ = t := by rw [after, AdapterCall.run, Run.map_apply, hroll]
  refine tries_of_controlCalls rfl (by rw [hafter, hnew]) fun y hy => ?_
  rw [outcome, AdapterCall.run, Run.map_apply] at hy
  obtain ⟨⟨⟩, hok, -⟩ := Result.map_eq_ok.mp hy
  exact Run.raises_of_rollback hc ht hok

end Occurrence

/-! ## The tables one after the other -/

/-- Runs statements without parameters one after the other, up to the first that fails. -/
def Run.executeAll (sqls : List String) : Run Unit :=
  sqls.forM fun sql => do let _ ← Run.execute sql

theorem Run.executeAll_cons (sql : String) (sqls : List String) (s : Session) :
    executeAll (sql :: sqls) s = match execute sql .null s with
      | (.ok _, t) => executeAll sqls t
      | (.error e, t) => (.error e, t) := by
  show ((execute sql .null >>= fun _ => pure ()) >>= fun _ => executeAll sqls : Run Unit) s = _
  rw [bind_apply, bind_apply]
  rcases execute sql .null s with ⟨e | r, t⟩ <;> rfl

/-- Of the statements that are run, the first ones create their tables; these are all of them, or
the next one fails and is the last that is tried. -/
theorem Run.executeAll_course {s : Session} {c : Nat} (hc : s.adapter.connection = some c)
    (sqls : List String) :
    ∃ tables, Reaches s tables (executeAll sqls s).2 ∧
      (executeAll sqls s).2.adapter.connection = some c ∧
      (executeAll sqls s).2.adapter.inTransaction = s.adapter.inTransaction ∧
      ((executeAll sqls s).1 = .ok () ∧ List.Forall₂ (Occurrence.Creates c) tables sqls ∨
        ∃ done sql rest created o e, sqls = done ++ sql :: rest ∧ tables = created ++ [o] ∧
          List.Forall₂ (Occurrence.Creates c) created done ∧
          o.Tries (.execute sql .null) c sql ∧ o.outcome = .error e ∧
          (executeAll sqls s).1 = .error e) := by
  induction sqls generalizing s with
  | nil => exact ⟨[], .start, hc, rfl, Or.inl ⟨rfl, .nil⟩⟩
  | cons sql sqls ih =>
    have htries := Occurrence.tries_execute hc sql
    have hreach := Reaches.call_self (.execute sql .null) s
    have hrun := execute_of_connected hc sql .null
    have hframe := execute_frame c sql s.adapter.dialect .null
    have hconnection := hframe.connection s
    have hactive := hframe.inTransaction s
    have hout : Occurrence.outcome ⟨.execute sql .null, s⟩ = (execute sql .null s).1.map some := by
      rw [Occurrence.outcome, AdapterCall.run, map_apply]
    rw [AdapterCall.run, map_apply] at hreach
    rw [← hrun] at hconnection hactive
    rw [executeAll_cons]
    rcases hstep : execute sql .null s with ⟨e | r, t⟩ <;>
      rw [hstep] at hreach hout hconnection hactive
    · refine ⟨[⟨.execute sql .null, s⟩], hreach, hconnection.trans hc, hactive, Or.inr ?_⟩
      exact ⟨[], sql, sqls, [], _, e, rfl, rfl, .nil, htries, hout, rfl⟩
    · have hcreates : Occurrence.Creates c ⟨.execute sql .null, s⟩ sql := ⟨htries, some r, hout⟩
      obtain ⟨tables, hreaches, hc', ht', hcourse⟩ := ih (s := t) (hconnection.trans hc)
      refine ⟨⟨.execute sql .null, s⟩ :: tables, hreach.trans hreaches, hc', ht'.trans hactive, ?_⟩
      rcases hcourse with ⟨hok, hcreated⟩ | ⟨done, sql', rest, created, o, e, rfl, rfl, hcreated,
        ho, he, hfailed⟩
      · exact Or.inl ⟨hok, .cons hcreates hcreated⟩
      · exact Or.inr ⟨sql :: done, sql', rest, _ :: created, o, e, rfl, rfl,
          .cons hcreates hcreated, ho, he, hfailed⟩

/-! ## One transaction -/

/-- The course of creating tables on a connection in one transaction: what is called, and what comes
of it in the end. -/
inductive TableCreation (c : Nat) (sqls : List String) :
    List Occurrence → Result (List String) → Prop
  /-- The transaction does not begin, and nothing more is called. -/
  | unbegun {b : Occurrence} {e : Error} (hbegin : b.Tries .beginTransaction c "BEGIN")
      (hb : b.outcome = .error e) : TableCreation c sqls [b] (.error e)
  /-- All tables are created, and then the transaction is committed, which may fail. -/
  | completed {b m : Occurrence} {tables : List Occurrence}
      (hbegin : b.Tries .beginTransaction c "BEGIN") (hb : b.outcome = .ok none)
      (htables : List.Forall₂ (Occurrence.Creates c) tables sqls)
      (hcommit : m.Tries .commit c "COMMIT") :
      TableCreation c sqls (b :: (tables ++ [m])) (m.outcome.map fun _ => sqls)
  /-- A table is not created, no more are tried, and the transaction is rolled back; the error is
  passed on unless rolling back fails as well. -/
  | undone {b o r : Occurrence} {tables : List Occurrence} {done rest : List String} {sql : String}
      {e : Error} (hbegin : b.Tries .beginTransaction c "BEGIN") (hb : b.outcome = .ok none)
      (hsqls : sqls = done ++ sql :: rest)
      (htables : List.Forall₂ (Occurrence.Creates c) tables done)
      (htable : o.Tries (.execute sql .null) c sql) (ho : o.outcome = .error e)
      (hroll : r.Tries .rollback c "ROLLBACK") :
      TableCreation c sqls (b :: (tables ++ [o, r])) (r.outcome.bind fun _ => .error e)

namespace TableCreation

variable {c : Nat} {sqls : List String} {h : List Occurrence} {x : Result (List String)}

theorem statements_of_creates {tables : List Occurrence}
    (htables : List.Forall₂ (Occurrence.Creates c) tables sqls) :
    (tables.flatMap Occurrence.asked).filterMap Call.statement? =
      sqls.map fun sql => (sql, [[]]) := by
  induction htables with
  | nil => rfl
  | cons hcreates _ ih =>
    obtain ⟨htries, y, hy⟩ := hcreates
    rw [List.flatMap_cons, List.filterMap_append, ih, htries.sent y hy]
    rfl

/-- Where the tables are reported, exactly their statements were sent between the beginning of the
transaction and its end. -/
theorem sent_of_ok (hcourse : TableCreation c sqls h x) {l : List String} (hx : x = .ok l) :
    l = sqls ∧ (h.flatMap Occurrence.asked).filterMap Call.statement? =
      ("BEGIN" :: (l ++ ["COMMIT"])).map fun sql => (sql, [[]]) := by
  cases hcourse with
  | unbegun hbegin hb => cases hx
  | completed hbegin hb htables hcommit =>
    obtain ⟨y, hy, rfl⟩ := Result.map_eq_ok.mp hx
    refine ⟨rfl, ?_⟩
    rw [List.flatMap_cons, List.flatMap_append, List.flatMap_singleton, List.filterMap_append,
      List.filterMap_append, hbegin.sent _ hb, statements_of_creates htables, hcommit.sent y hy,
      List.map_cons, List.map_append]
    rfl
  | undone hbegin hb hsqls htables htable ho hroll =>
    obtain ⟨y, -, hy⟩ := Result.bind_eq_ok.mp hx
    cases hy

theorem exists_of_mem_creates {tables : List Occurrence}
    (htables : List.Forall₂ (Occurrence.Creates c) tables sqls) {o : Occurrence} (ho : o ∈ tables) :
    ∃ sql ∈ sqls, o.Creates c sql := by
  induction htables with
  | nil => cases ho
  | cons hcreates _ ih =>
    rcases List.mem_cons.mp ho with rfl | ho
    · exact ⟨_, List.mem_cons_self, hcreates⟩
    · obtain ⟨sql, hsql, hcreates⟩ := ih ho
      exact ⟨sql, List.mem_cons_of_mem _ hsql, hcreates⟩

/-- The driver is asked to commit only if all tables were created. -/
theorem created_of_commit (hcourse : TableCreation c sqls h x) (hsqls : "COMMIT" ∉ sqls) {n : Nat}
    {params : List Value} (hk : .execute n "COMMIT" params ∈ h.flatMap Occurrence.asked) :
    ∃ b tables m, h = b :: (tables ++ [m]) ∧ List.Forall₂ (Occurrence.Creates c) tables sqls := by
  obtain ⟨o, ho, hk⟩ := List.mem_flatMap.mp hk
  have htext : ∀ {call sql}, o.Tries call c sql → sql = "COMMIT" := fun htries =>
    (htries.exchange.eq_of_execute hk).symm
  cases hcourse with
  | unbegun hbegin hb =>
    cases List.mem_singleton.mp ho
    exact absurd (htext hbegin) (by decide)
  | completed hbegin hb htables hcommit => exact ⟨_, _, _, rfl, htables⟩
  | undone hbegin hb heq htables htable hfails hroll =>
    rw [heq] at hsqls
    rcases List.mem_cons.mp ho with rfl | ho
    · exact absurd (htext hbegin) (by decide)
    rcases List.mem_append.mp ho with ho | ho
    · obtain ⟨sql, hsql, hcreates, -⟩ := exists_of_mem_creates htables ho
      exact (hsqls (htext hcreates ▸ List.mem_append_left _ hsql)).elim
    rcases List.mem_cons.mp ho with rfl | ho
    · exact (hsqls (htext htable ▸ List.mem_append_right _ List.mem_cons_self)).elim
    · cases List.mem_singleton.mp ho
      exact absurd (htext hroll) (by decide)

end TableCreation

/-- Statements that are run in one transaction on a connection without one take such a course. -/
theorem Run.transaction_executeAll_course {s : Session} {c : Nat}
    (hc : s.adapter.connection = some c) (ht : s.adapter.inTransaction = false)
    (sqls : List String) :
    ∃ h, Reaches s h (transaction (executeAll sqls) s).2 ∧
      TableCreation c sqls h ((transaction (executeAll sqls) s).1.map fun _ => sqls) := by
  have hcall : AdapterCall.beginTransaction.run = (fun _ => none) <$> beginTransaction := rfl
  obtain ⟨hbegin, hgo⟩ := Occurrence.tries_then_setTransaction hcall
    (beginTransaction_of_idle hc ht)
  have hreach := Reaches.call_self .beginTransaction s
  have hout : Occurrence.outcome ⟨.beginTransaction, s⟩ =
      (beginTransaction s).1.map fun _ => none := by
    rw [Occurrence.outcome, AdapterCall.run, map_apply]
  rw [AdapterCall.run, map_apply] at hreach
  rw [transaction_apply]
  rcases hrun : beginTransaction s with ⟨e | ⟨⟩, u⟩ <;> rw [hrun] at hgo hreach hout
  · exact ⟨_, hreach, .unbegun hbegin hout⟩
  obtain ⟨-, hadapter⟩ := hgo.resolve_right fun h => by cases h.choose_spec
  have hu : u.adapter.connection = some c := (congrArg Adapter.connection hadapter).trans hc
  obtain ⟨tables, hreaches, hv, hactive, hcourse⟩ := executeAll_course hu sqls
  have hactive : (executeAll sqls u).2.adapter.inTransaction = true :=
    hactive.trans (congrArg Adapter.inTransaction hadapter)
  dsimp only
  rcases hbody : executeAll sqls u with ⟨x, v⟩
  rw [hbody] at hreaches hv hactive hcourse
  have hleave := Reaches.leavingHistory x v
  rcases hcourse with ⟨rfl, hcreated⟩ |
    ⟨done, sql, rest, created, o, e, rfl, rfl, hcreated, ho, he, rfl⟩
  · have hcall : AdapterCall.commit.run = (fun _ => none) <$> commit := rfl
    obtain ⟨hcommit, -⟩ := Occurrence.tries_then_setTransaction hcall (commit_of_active hv hactive)
    refine ⟨_, hreach.trans (hreaches.trans hleave), ?_⟩
    have hresult : (leaveTransaction (.ok ()) v).1.map (fun _ => sqls) =
        (Occurrence.outcome ⟨.commit, v⟩).map fun _ => sqls := by
      rw [leaveTransaction_ok, Occurrence.outcome, AdapterCall.run, map_apply]
      cases (commit v).1 <;> rfl
    rw [hresult]
    exact .completed hbegin hout hcreated hcommit
  · have hroll := Occurrence.tries_rollback hv hactive
    have hleaving : leavingHistory (.error e) v = [⟨.rollback, v⟩] := by
      rw [leavingHistory, hactive, hv]
      rfl
    have hresult :
        (leaveTransaction (.error e : Result Unit) v).1.map (fun _ => done ++ sql :: rest) =
          (Occurrence.outcome ⟨.rollback, v⟩).bind fun _ => .error e := by
      rw [leaveTransaction_error, Occurrence.outcome, AdapterCall.run, map_apply, hactive, hv]
      dsimp only [Option.isSome, Bool.and_true, if_true]
      cases (rollback v).1 <;> rfl
    refine ⟨_, hreach.trans (hreaches.trans hleave), ?_⟩
    rw [hresult, hleaving, List.append_assoc]
    exact .undone hbegin hout rfl hcreated ho he hroll

/-! ## The tables of models -/

/-- No statement that creates a table is one that controls transactions. -/
theorem Entity.createTable_ne (e : Entity) (d : Dialect) (ifAbsent : Bool) {statement : String}
    (h : statement ∈ ["BEGIN", "COMMIT", "ROLLBACK"]) : e.createTable d ifAbsent ≠ statement := by
  have hstart : (e.createTable d ifAbsent).toList.take 2 = ['C', 'R'] := by
    unfold createTable
    cases ifAbsent <;> simp
  rintro rfl
  simp only [List.mem_cons, List.not_mem_nil, or_false] at h
  rcases h with h | h | h <;> rw [h] at hstart <;> cases hstart

namespace Catalog

variable {catalog : Catalog} {models : List ModelId} {ifAbsent : Bool} {d : Dialect}

def IsRegistered (catalog : Catalog) (m : ModelId) : Prop :=
  (catalog.registry (catalog.scopeOf m)).isRegistered m = true

/-- What was declared of a model, in the registry in which the model looks. -/
def declared (catalog : Catalog) (m : ModelId) : Entity :=
  let slot := (catalog.registry (catalog.scopeOf m)).slot m
  ⟨m, slot.table, slot.columns⟩

theorem entity_of_isRegistered {m : ModelId} (h : catalog.IsRegistered m) :
    catalog.entity m = .ok (catalog.declared m) := by
  unfold IsRegistered at h
  rw [Registry.isRegistered_eq] at h
  unfold entity
  rw [Registry.entity_eq, if_pos h]
  rfl

theorem entity_of_not_isRegistered {m : ModelId} (h : ¬ catalog.IsRegistered m) :
    catalog.entity m = .error (.unregistered m.name) := by
  unfold IsRegistered at h
  rw [Registry.isRegistered_eq] at h
  unfold entity
  rw [Registry.entity_eq, if_neg h]

theorem tableStatements_eq_ok {metadata : ModelId → Entity}
    (h : ∀ m ∈ models, catalog.entity m = .ok (metadata m)) :
    catalog.tableStatements d models ifAbsent =
      .ok (models.map fun m => (metadata m).createTable d ifAbsent) := by
  refine Result.mapM_eq_ok_map fun m hm => ?_
  rw [h m hm]
  rfl

theorem tableStatements_eq_error {m : ModelId} (hm : m ∈ models) (h : ¬ catalog.IsRegistered m) :
    ∃ e, catalog.tableStatements d models ifAbsent = .error e := by
  refine Result.mapM_eq_error_of_mem hm (e := .unregistered m.name) ?_
  rw [entity_of_not_isRegistered h]
  rfl

theorem applySchema_apply (s : Session) :
    catalog.applySchema models ifAbsent s =
      match catalog.tableStatements s.adapter.dialect models ifAbsent with
      | .error e => (.error e, s)
      | .ok sqls => ((Run.transaction (Run.executeAll sqls) s).1.map fun _ => sqls,
          (Run.transaction (Run.executeAll sqls) s).2) := by
  unfold applySchema
  rw [Run.bind_apply]
  simp only [Run.adapter]
  rw [Run.bind_apply]
  cases catalog.tableStatements s.adapter.dialect models ifAbsent with
  | error e => rfl
  | ok sqls =>
    simp only [Run.ofResult]
    rw [Run.bind_apply]
    unfold Run.executeAll
    rcases Run.transaction _ s with ⟨e | u, t⟩ <;> rfl

/-- The table of users where the database is asked for it unless it is there. -/
def usersTable : String :=
  "CREATE TABLE IF NOT EXISTS users (\n  id INTEGER PRIMARY KEY,\n  name TEXT NOT NULL\n)"

end Catalog

end RelMap
