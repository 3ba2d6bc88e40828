import RelMap.Proofs.Session.StateMachine
import RelMap.Proofs.Settings.Checked

/-!
# What reports keep to themselves

Reports tell neither the values of parameters nor the credentials of a connection.  This is a
property of two runs: programs that differ only in such things report the same.

`Run.Alike R r r'` says that two programs, on sessions that are alike, have outcomes that are alike
and leave sessions that are alike, the reports among them.  Values of the outcomes are related by
`R`; errors may differ in the parameters that they carry.  There is one rule for each combinator of
programs and one for each operation of an adapter, and `Client.run_alike` puts them together for
clients that make the same calls with other parameters.

The one thing that a report can tell of the options of a server is whether they repeat an argument
that is always passed (`events_eq_iff`).
-/

namespace RelMap

/-! ## Sessions that reports do not tell apart -/

/-- The backends are described by the same details, and opening a connection fails before the driver
is asked for both or for neither. -/
structure Backend.Alike (b b' : Backend) : Prop where
  described : ∀ d, b.describe d = b'.describe d
  opened : (b.opening.map fun _ => ()) = b'.opening.map fun _ => ()

structure Adapter.Alike (a a' : Adapter) : Prop where
  backend : a.backend.Alike a'.backend
  dialect : a.dialect = a'.dialect
  connection : a.connection = a'.connection
  inTransaction : a.inTransaction = a'.inTransaction
  statements : a.statements = a'.statements

/-- The sessions are the same but for what their backends hide and for what the driver was asked; it
was asked as often. -/
structure Session.Alike (s s' : Session) : Prop where
  adapter : s.adapter.Alike s'.adapter
  script : s.script = s'.script
  closing : s.closing = s'.closing
  calls : s.calls.length = s'.calls.length
  events : s.events = s'.events

/-- The errors are the same but for the parameters that a rejected statement was run with. -/
inductive Error.Alike : Error → Error → Prop
  | same (e : Error) : Alike e e
  | executionFailed (message sql : String) (params params' : List Value) :
      Alike (.executionFailed message sql (some params))
        (.executionFailed message sql (some params'))

inductive Result.Alike {α : Type} (R : α → α → Prop) : Result α → Result α → Prop
  | ok {x x' : α} (h : R x x') : Alike R (.ok x) (.ok x')
  | error {e e' : Error} (h : e.Alike e') : Alike R (.error e) (.error e')

/-- On sessions that are alike, the programs have outcomes that are alike and leave sessions that
are alike. -/
def Run.Alike {α : Type} (R : α → α → Prop) (r r' : Run α) : Prop :=
  ∀ ⦃s s' : Session⦄, s.Alike s' →
    Result.Alike R (r s).1 (r' s').1 ∧ (r s).2.Alike (r' s').2

theorem Result.Alike.refl {α : Type} {R : α → α → Prop} (hR : ∀ y, R y y) (x : Result α) :
    Result.Alike R x x := by
  cases x with
  | ok y => exact .ok (hR y)
  | error e => exact .error (.same e)

theorem Result.Alike.map {α β : Type} {R : α → α → Prop} {x x' : Result α} {f : α → β}
    (h : Result.Alike R x x') (hf : ∀ y y', R y y' → f y = f y') :
    Result.Alike Eq (x.map f) (x'.map f) := by
  cases h with
  | ok h => exact .ok (hf _ _ h)
  | error h => exact .error h

/-- Errors of the driver carry no parameters. -/
theorem Result.Alike.driver_iff {α : Type} {R : α → α → Prop} {x x' : Result α}
    (h : Result.Alike R x x') {m : String} :
    x = .error (.raised (.driver m)) ↔ x' = .error (.raised (.driver m)) := by
  cases h with
  | ok h => simp
  | error h => cases h <;> simp

namespace Run.Alike

variable {α β : Type} {R : α → α → Prop} {Q : β → β → Prop} {r r' : Run α}

/-! ## Steps -/

theorem ofResult {x x' : Result α} (h : Result.Alike R x x') :
    Alike R (Run.ofResult x) (Run.ofResult x') :=
  fun _ _ hs => ⟨h, hs⟩

theorem pure {x x' : α} (h : R x x') : Alike R (Pure.pure x) (Pure.pure x') :=
  ofResult (.ok h)

theorem fail {e e' : Error} (h : e.Alike e') : Alike R (Run.fail e) (Run.fail e') :=
  ofResult (.error h)

theorem adapter : Alike Adapter.Alike Run.adapter Run.adapter :=
  fun _ _ hs => ⟨.ok hs.adapter, hs⟩

theorem modifyAdapter {f : Adapter → Adapter}
    (hf : ∀ ⦃a a' : Adapter⦄, a.Alike a' → (f a).Alike (f a')) :
    Alike Eq (Run.modifyAdapter f) (Run.modifyAdapter f) :=
  fun _ _ hs => ⟨.ok rfl, { hs with adapter := hf hs.adapter }⟩

theorem call (c c' : Call) : Alike Eq (Run.call c) (Run.call c') := by
  intro s s' hs
  refine ⟨.ok rfl, { hs with calls := ?_ }⟩
  show (s.calls ++ [c]).length = (s'.calls ++ [c']).length
  simp [hs.calls]

theorem report (ev : Event) : Alike Eq (Run.report ev) (Run.report ev) := by
  intro s s' hs
  refine ⟨.ok rfl, { hs with events := ?_ }⟩
  show s.events ++ [ev] = s'.events ++ [ev]
  rw [hs.events]

theorem check : ∀ g : Option Signal, Alike Eq (Run.check g) (Run.check g)
  | none => pure rfl
  | some g => fail (.same (.raised g))

/-! ## Combinations -/

theorem bind {f f' : α → Run β} (hr : Alike R r r')
    (hf : ∀ ⦃x x'⦄, R x x' → Alike Q (f x) (f' x')) : Alike Q (r >>= f) (r' >>= f') := by
  intro s s' hs
  obtain ⟨hx, ht⟩ := hr hs
  rw [bind_apply, bind_apply]
  rcases hrun : r s with ⟨x, t⟩
  rcases hrun' : r' s' with ⟨x', t'⟩
  rw [hrun, hrun'] at hx ht
  cases hx with
  | ok h => exact hf h ht
  | error h => exact ⟨.error h, ht⟩

/-- After a step with a common value both programs go on with it. -/
theorem andThen {f f' : α → Run β} (hr : Alike Eq r r') (hf : ∀ x, Alike Q (f x) (f' x)) :
    Alike Q (r >>= f) (r' >>= f') := by
  refine hr.bind ?_
  rintro x _ rfl
  exact hf x

theorem always {last last' : Run Unit} (hr : Alike R r r') (hl : Alike Eq last last') :
    Alike R (r.always last) (r'.always last') := by
  intro s s' hs
  obtain ⟨hx, ht⟩ := hr hs
  obtain ⟨hy, hu⟩ := hl ht
  rw [always_apply, always_apply]
  rcases hlast : last (r s).2 with ⟨y, u⟩
  rcases hlast' : last' (r' s').2 with ⟨y', u'⟩
  rw [hlast, hlast'] at hy hu
  cases hy with
  | ok _ => exact ⟨hx, hu⟩
  | error h => exact ⟨.error h, hu⟩

/-- The same errors of the driver are answered, and alike errors are passed on. -/
theorem onDriverError {answer answer' : String → Run α} (hr : Alike R r r')
    (ha : ∀ m, Alike R (answer m) (answer' m)) :
    Alike R (r.onDriverError answer) (r'.onDriverError answer') := by
  intro s s' hs
  obtain ⟨hx, ht⟩ := hr hs
  by_cases hdriver : ∃ m, (r s).1 = .error (.raised (.driver m))
  · obtain ⟨m, hm⟩ := hdriver
    have hm' := (Result.Alike.driver_iff hx).mp hm
    rw [onDriverError_of_driver hm, onDriverError_of_driver hm']
    exact ha m ht
  · have hne : ∀ m, (r s).1 ≠ .error (.raised (.driver m)) := fun m hm => hdriver ⟨m, hm⟩
    have hne' : ∀ m, (r' s').1 ≠ .error (.raised (.driver m)) :=
      fun m hm => hne m ((Result.Alike.driver_iff hx).mpr hm)
    rw [onDriverError_of_ne hne, onDriverError_of_ne hne']
    exact ⟨hx, ht⟩

theorem attempt (hr : Alike R r r') : Alike (Result.Alike R) r.attempt r'.attempt := by
  intro s s' hs
  obtain ⟨hx, ht⟩ := hr hs
  exact ⟨.ok hx, ht⟩

theorem under (script : Script) (hr : Alike R r r') :
    Alike R (r.under script) (r'.under script) := by
  intro s s' hs
  have hscripted : Session.Alike { s with script } { s' with script } :=
    { hs with script := rfl }
  obtain ⟨hx, ht⟩ := hr hscripted
  exact ⟨hx, { ht with script := hs.script }⟩

theorem map {f : α → β} (hr : Alike Eq r r') : Alike Eq (f <$> r) (f <$> r') := by
  refine hr.andThen fun x => ?_
  exact pure rfl

/-! ## Connections and cursors -/

theorem openConnection {b b' : Backend} (h : b.Alike b') :
    Alike Eq (Run.openConnection b) (Run.openConnection b') := by
  intro s s' hs
  have hopened := h.opened
  unfold Run.openConnection
  rw [← hs.script, ← hs.calls]
  rcases hb : b.opening with e | ⟨positional, named⟩ <;>
    rcases hb' : b'.opening with e' | ⟨positional', named'⟩ <;>
    rw [hb, hb'] at hopened <;> cases hopened
  · exact ⟨.error (.same e), hs⟩
  · cases s.script.openError with
    | none => exact (call _ _).andThen (fun _ => pure rfl) hs
    | some g => exact (call _ _).andThen (fun _ => fail (.same _)) hs

theorem closeConnection (connection : Nat) :
    Alike Eq (Run.closeConnection connection) (Run.closeConnection connection) := by
  intro s s' hs
  unfold Run.closeConnection
  rw [← hs.closing]
  split
  · exact (call _ _).andThen (fun _ => check _) hs
  · exact ⟨.ok rfl, hs⟩

theorem nextReply : Alike Eq Run.nextReply Run.nextReply := by
  intro s s' hs
  rw [nextReply_apply, nextReply_apply]
  unfold Session.reply Session.afterReply
  rw [← hs.script]
  exact ⟨.ok rfl, { hs with script := rfl }⟩

theorem openCursor (connection : Nat) :
    Alike Eq (Run.openCursor connection) (Run.openCursor connection) := by
  refine nextReply.andThen fun reply => ?_
  intro s s' hs
  dsimp only
  rw [← hs.calls]
  cases reply.refused with
  | none => exact (call _ _).andThen (fun _ => pure rfl) hs
  | some g => exact (call _ _).andThen (fun _ => fail (.same _)) hs

theorem closeCursor (cursor : Nat) (reply : Reply) :
    Alike Eq (Run.closeCursor cursor reply) (Run.closeCursor cursor reply) := by
  unfold Run.closeCursor
  split
  · exact (call _ _).andThen fun _ => check _
  · exact pure rfl

theorem withCursor (connection : Nat) {body body' : Nat → Reply → Run α}
    (hbody : ∀ cursor reply, Alike R (body cursor reply) (body' cursor reply)) :
    Alike R (Run.withCursor connection body) (Run.withCursor connection body') := by
  refine (openCursor connection).andThen ?_
  rintro ⟨cursor, reply⟩
  exact (hbody cursor reply).always (closeCursor cursor reply)

/-! ## Operations -/

theorem requireConnection : Alike Eq Run.requireConnection Run.requireConnection := by
  refine adapter.bind fun a a' ha => ?_
  rw [← ha.connection]
  cases a.connection with
  | none => exact fail (.same _)
  | some c => exact pure rfl

theorem connect : Alike Eq Run.connect Run.connect := by
  refine adapter.bind fun a a' ha => ?_
  rw [← ha.connection, ← ha.dialect, ← ha.backend.described]
  cases a.connection with
  | some c => exact pure rfl
  | none =>
    refine Alike.andThen ((openConnection ha.backend).onDriverError fun m => ?_) fun c => ?_
    · exact (report _).andThen fun _ => fail (.same _)
    · refine (modifyAdapter fun a a' ha => ?_).andThen fun _ => report _
      exact { ha with connection := rfl, inTransaction := rfl }

theorem control (statement : String) :
    Alike Eq (Run.control statement) (Run.control statement) := by
  refine requireConnection.andThen fun c => ?_
  refine (withCursor c fun cursor reply => ?_).onDriverError fun m => ?_
  · exact (call _ _).andThen fun _ => check _
  · exact (report _).andThen fun _ => fail (.same _)

theorem disconnect : Alike Eq Run.disconnect Run.disconnect := by
  refine adapter.bind fun a a' ha => ?_
  rw [← ha.connection, ← ha.dialect, ← ha.backend.described, ← ha.inTransaction]
  cases a.connection with
  | none => exact pure rfl
  | some c =>
    refine Alike.always ?_ ?_
    · split
      · exact control _
      · exact pure rfl
    · refine (modifyAdapter fun a a' ha => ?_).andThen fun _ => ?_
      · exact { ha with connection := rfl, inTransaction := rfl }
      · exact (closeConnection c).andThen fun _ => report _

theorem readResult (cursor : Nat) (reply : Reply) :
    Alike Eq (Run.readResult cursor reply) (Run.readResult cursor reply) := by
  unfold Run.readResult
  split
  · exact pure rfl
  · refine (call _ _).andThen fun _ => (check _).andThen fun _ => ?_
    exact (ofResult (.refl (fun _ => rfl) _)).andThen fun _ => pure rfl

theorem countStatements (n : Nat) :
    Alike Eq (Run.countStatements n) (Run.countStatements n) := by
  refine modifyAdapter fun a a' ha => { ha with statements := ?_ }
  show a.statements + n = a'.statements + n
  rw [ha.statements]

/-- Statements whose parameters are bound to lists of one length, or are refused alike. -/
theorem execute (sql : String) {params params' : Value}
    (h : ∀ d, Result.Alike (fun ps ps' => ps.length = ps'.length) (bindParams d params)
      (bindParams d params')) :
    Alike Eq (Run.execute sql params) (Run.execute sql params') := by
  refine requireConnection.andThen fun c => adapter.bind fun a a' ha => ?_
  rw [← ha.dialect]
  refine (ofResult (h a.dialect)).bind fun ps ps' hlength => ?_
  rw [← hlength]
  refine (report _).andThen fun _ => Alike.andThen ?_ fun _ =>
    (countStatements 1).andThen fun _ => pure rfl
  refine (withCursor c fun cursor reply => ?_).onDriverError fun m => ?_
  · exact (call _ _).andThen fun _ => (check _).andThen fun _ => readResult cursor reply
  · exact (report _).andThen fun _ => fail (.executionFailed m sql ps ps')

theorem executeMany (sql : String) {sets sets' : Value}
    (h : ∀ d, Result.Alike (fun rows rows' => rows.length = rows'.length) (bindSets d sets)
      (bindSets d sets')) :
    Alike Eq (Run.executeMany sql sets) (Run.executeMany sql sets') := by
  refine requireConnection.andThen fun c => adapter.bind fun a a' ha => ?_
  rw [← ha.dialect]
  refine (ofResult (h a.dialect)).bind fun rows rows' hlength => ?_
  rw [← hlength]
  refine (report _).andThen fun _ => Alike.andThen ?_ fun _ =>
    (countStatements _).andThen fun _ => pure rfl
  refine (withCursor c fun cursor reply => ?_).onDriverError fun m => ?_
  · exact (call _ _).andThen fun _ => (check _).andThen fun _ => ofResult (.refl (fun _ => rfl) _)
  · exact (report _).andThen fun _ => fail (.same _)

theorem setTransaction (active : Bool) :
    Alike Eq (Run.setTransaction active) (Run.setTransaction active) :=
  modifyAdapter fun _ _ ha => { ha with inTransaction := rfl }

theorem beginTransaction : Alike Eq Run.beginTransaction Run.beginTransaction := by
  refine requireConnection.andThen fun c => adapter.bind fun a a' ha => ?_
  rw [← ha.inTransaction]
  split
  · exact fail (.same _)
  · exact (control _).andThen fun _ => (setTransaction _).andThen fun _ => report _

theorem commit : Alike Eq Run.commit Run.commit := by
  refine requireConnection.andThen fun c => adapter.bind fun a a' ha => ?_
  rw [← ha.inTransaction]
  split
  · exact (control _).andThen fun _ => (setTransaction _).andThen fun _ => report _
  · exact fail (.same _)

theorem rollback : Alike Eq Run.rollback Run.rollback := by
  refine requireConnection.andThen fun c => adapter.bind fun a a' ha => ?_
  rw [← ha.inTransaction]
  split
  · exact ((control _).always (setTransaction _)).andThen fun _ => report _
  · exact fail (.same _)

theorem leaveTransaction {x x' : Result α} (h : Result.Alike R x x') :
    Alike R (Run.leaveTransaction x) (Run.leaveTransaction x') := by
  cases h with
  | ok h => exact commit.andThen fun _ => pure h
  | error h =>
    refine adapter.bind fun a a' ha => ?_
    rw [← ha.inTransaction, ← ha.connection]
    split
    · exact rollback.andThen fun _ => fail h
    · exact fail h

theorem transaction (hr : Alike R r r') :
    Alike R (Run.transaction r) (Run.transaction r') :=
  beginTransaction.andThen fun _ => hr.attempt.bind fun _ _ h => leaveTransaction h

end Run.Alike

/-! ## Clients -/

/-- The calls are the same but for the parameters of statements: where these differ they are
accepted, and as many parameters, or as many rows of them, are bound. -/
inductive AdapterCall.Alike : AdapterCall → AdapterCall → Prop
  | same (c : AdapterCall) : Alike c c
  | execute (sql : String) {params params' : Value} {d : Dialect} {ps ps' : List Value}
      (h : bindParams d params = .ok ps) (h' : bindParams d params' = .ok ps')
      (hlength : ps.length = ps'.length) : Alike (.execute sql params) (.execute sql params')
  | executeMany (sql : String) {sets sets' : Value} {d : Dialect} {rows rows' : List (List Value)}
      (h : bindSets d sets = .ok rows) (h' : bindSets d sets' = .ok rows')
      (hlength : rows.length = rows'.length) :
      Alike (.executeMany sql sets) (.executeMany sql sets')

theorem AdapterCall.Alike.run {c c' : AdapterCall} (h : c.Alike c') :
    Run.Alike Eq c.run c'.run := by
  cases h with
  | execute sql h h' hlength =>
    refine (Run.Alike.execute sql fun d => ?_).map
    obtain ⟨ps, hps, hn⟩ := Run.exists_bindParams h d
    obtain ⟨ps', hps', hn'⟩ := Run.exists_bindParams h' d
    rw [hps, hps']
    exact .ok (by rw [hn, hn', hlength])
  | executeMany sql h h' hlength =>
    refine (Run.Alike.executeMany sql fun d => ?_).map
    obtain ⟨rows, hrows, hn⟩ := Run.exists_bindSets h d
    obtain ⟨rows', hrows', hn'⟩ := Run.exists_bindSets h' d
    rw [hrows, hrows']
    exact .ok (by rw [hn, hn', hlength])
  | same c =>
    cases c with
    | connect => exact Run.Alike.connect.map
    | disconnect => exact Run.Alike.disconnect.map
    | execute sql params =>
      refine (Run.Alike.execute sql fun d => ?_).map
      exact Result.Alike.refl (fun ps => Eq.refl ps.length) _
    | executeMany sql sets =>
      refine (Run.Alike.executeMany sql fun d => ?_).map
      exact Result.Alike.refl (fun rows => Eq.refl rows.length) _
    | beginTransaction => exact Run.Alike.beginTransaction.map
    | commit => exact Run.Alike.commit.map
    | rollback => exact Run.Alike.rollback.map

/-- The clients make alike calls, one after the other, as long as the outcomes are alike. -/
inductive Client.Alike : Client → Client → Prop
  | done {outcome outcome' : Result Unit} (h : Result.Alike Eq outcome outcome') :
      Alike (.done outcome) (.done outcome')
  | call (script : Script) {c c' : AdapterCall}
      {next next' : Result (Option QueryResult) → Client} (h : c.Alike c')
      (hnext : ∀ x x', Result.Alike Eq x x' → Alike (next x) (next' x')) :
      Alike (.call script c next) (.call script c' next')
  | scope (script : Script) {body body' : Client} {next next' : Result Unit → Client}
      (h : Alike body body')
      (hnext : ∀ x x', Result.Alike Eq x x' → Alike (next x) (next' x')) :
      Alike (.scope script body next) (.scope script body' next')

theorem Client.run_alike {k k' : Client} (h : k.Alike k') : Run.Alike Eq k.run k'.run := by
  induction h with
  | done h => exact .ofResult h
  | call script h _ ih => exact (h.run.under script).attempt.bind ih
  | scope script _ _ ihbody ihnext => exact (ihbody.transaction.under script).attempt.bind ihnext

/-! ## Backends -/

namespace Arguments

theorem has_set (as : Arguments) (name : String) (v : Value) (other : String) :
    (as.set name v).has other = (name == other || as.has other) := by
  rw [has_eq, has_eq, get?_set]
  by_cases h : name = other <;> simp [h]

theorem has_update (as more : Arguments) (name : String) :
    (as.update more).has name = (as.has name || more.has name) := by
  induction more generalizing as with
  | nil => exact (Bool.or_false _).symm
  | cons o more ih =>
    refine (ih (as.set o.1 o.2)).trans ?_
    rw [has_set, Bool.or_comm (o.1 == name), Bool.or_assoc]
    rfl

end Arguments

theorem Server.has_given {name other : String} (h : name ≠ other) (v : Value) :
    (given name v).has other = false := by
  unfold given
  split
  · rfl
  · simp [Arguments.has, h]

/-- Does an option repeat an argument that is always passed when a connection is opened? -/
def Backend.repeats : Backend → Bool
  | generic => false
  | embedded e => e.options.has "isolation_level"
  | server s => s.options.has "autocommit"

theorem Server.has_parameters (s : Server) :
    s.parameters.has "autocommit" = s.options.has "autocommit" := by
  have happend : ∀ as bs : Arguments,
      (as ++ bs).has "autocommit" = (as.has "autocommit" || bs.has "autocommit") :=
    fun _ _ => List.any_append
  have hmode : Arguments.has (if s.tls.truthy then [("sslmode", .text "require")] else [])
      "autocommit" = false := by
    split <;> rfl
  unfold parameters
  rw [Arguments.has_update, happend, happend, happend, happend, happend, hmode,
    has_given (by decide), has_given (by decide), has_given (by decide), has_given (by decide)]
  rfl

theorem Backend.opening_map (b : Backend) :
    (b.opening.map fun _ => ()) = if b.repeats then .error (.fault .wrongType) else .ok () := by
  cases b with
  | generic => rfl
  | embedded e =>
    unfold opening repeats
    dsimp only
    split <;> rfl
  | server s =>
    unfold opening repeats
    dsimp only
    rw [s.has_parameters]
    split <;> rfl

/-- The backends differ at most in the user, the password and the further options of a server. -/
inductive Backend.Twin : Backend → Backend → Prop
  | same (b : Backend) : Twin b b
  | servers (s : Server) (user password : Value) (options : Arguments) :
      Twin (.server s)
        (.server { s with user := user, password := password, options := options })

theorem Backend.Twin.described {b b' : Backend} (h : b.Twin b') (d : Dialect) :
    b.describe d = b'.describe d := by
  cases h <;> rfl

/-- Twins cannot be told apart unless an option of only one of them repeats an argument. -/
theorem Backend.Twin.alike {b b' : Backend} (h : b.Twin b') (hrepeats : b.repeats = b'.repeats) :
    b.Alike b' where
  described := h.described
  opened := by rw [b.opening_map, b'.opening_map, hrepeats]

theorem Session.fresh_alike {b b' : Backend} (h : b.Alike b') (d : Dialect) (script : Script)
    (closing : Closing) : (fresh d b script closing).Alike (fresh d b' script closing) where
  adapter := ⟨h, rfl, rfl, rfl, rfl⟩
  script := rfl
  closing := rfl
  calls := rfl
  events := rfl

/-- Connecting a new adapter reports success, unless an option repeats an argument. -/
theorem Run.connect_fresh_events (d : Dialect) (b : Backend) (closing : Closing) :
    (Run.connect (.fresh d b {} closing)).2.events =
      if b.repeats then [] else [.connected (b.describe d)] := by
  have hopening := b.opening_map
  unfold connect
  rw [bind_apply]
  simp only [adapter, Session.fresh]
  rw [bind_apply, onDriverError_apply, openConnection_apply]
  cases hb : b.opening <;> rw [hb] at hopening <;> cases hr : b.repeats <;>
    simp [hr, Except.map] at hopening
  · obtain rfl := hopening
    rfl
  · rfl

/-- A client that connects and does nothing more. -/
def Client.visiting : Client := .call {} .connect fun _ => .done (.ok ())

theorem Client.visiting_alike : visiting.Alike visiting :=
  .call {} (.same .connect) fun _ _ _ => .done (.ok rfl)

theorem Client.visiting_events (d : Dialect) (b : Backend) (closing : Closing) :
    (visiting.run (.fresh d b {} closing)).2.events =
      if b.repeats then [] else [.connected (b.describe d)] := by
  have hrun : (visiting.run (.fresh d b {} closing)).2.events =
      (AdapterCall.connect.run (.fresh d b {} closing)).2.events := rfl
  rw [hrun, AdapterCall.run, Run.map_apply, Run.connect_fresh_events]

/-- **Reports tell neither parameters nor credentials.**  Clients that make the same calls with
other parameters, on twin backends whose driver answers the same, report the same, however their
calls end; and this holds of twins exactly if the options of both or of neither repeat an argument
that is always passed. -/
theorem Client.events_eq_iff {b b' : Backend} (hb : b.Twin b') (d : Dialect) :
    (∀ (script : Script) (closing : Closing) (k k' : Client), k.Alike k' →
        (k.run (.fresh d b script closing)).2.events =
          (k'.run (.fresh d b' script closing)).2.events) ↔
      b.repeats = b'.repeats := by
  constructor
  · intro h
    have hevents := h {} {} visiting visiting visiting_alike
    rw [visiting_events, visiting_events] at hevents
    revert hevents
    cases b.repeats <;> cases b'.repeats <;> simp
  · intro hrepeats script closing k k' hk
    have hfresh := Session.fresh_alike (hb.alike hrepeats) d script closing
    exact (run_alike hk hfresh).2.events

/-- A client that connects and, in a transaction, has a row rejected. -/
def Client.rejected (row : Value) : Client :=
  .call {} .connect fun _ =>
    .scope {} (.call { replies := [{ runError := some (.driver "duplicate key") }] }
      (.execute "INSERT INTO users VALUES (%s)" row) fun x => .done (x.map fun _ => ()))
      fun _ => .done (.ok ())

theorem Client.events_eq_rejected :
    let b : Backend := .server
      { host := .text "db", user := .text "ann", password := .text "s3cret" }
    let b' : Backend := .server
      { host := .text "db", user := .text "bob", options := [("application_name", .text "audit")] }
    ((rejected (.list [.text "ann@home"])).run (.fresh .postgres b {} {})).2.events =
      ((rejected (.list [.int 17])).run (.fresh .postgres b' {} {})).2.events := by
  intro b b'
  have hb : b.Twin b' := .servers _ _ _ _
  have hbound : bindParams .postgres (.list [.text "ann@home"]) = .ok [.text "ann@home"] := rfl
  have hbound' : bindParams .postgres (.list [.int 17]) = .ok [.int 17] := rfl
  have hk : (rejected (.list [.text "ann@home"])).Alike (rejected (.list [.int 17])) := by
    refine .call {} (.same .connect) fun _ _ _ => ?_
    refine .scope {} (.call _ ?_ fun _ _ hx => ?_) fun _ _ _ => .done (.ok rfl)
    · exact .execute _ hbound hbound' rfl
    · exact .done (hx.map fun _ _ _ => rfl)
  exact (events_eq_iff hb .postgres).mpr rfl {} {} _ _ hk

/-- An option that repeats what is always passed can be told, since nothing is reported then. -/
theorem Client.events_ne_visiting :
    let b : Backend := .server {}
    let b' : Backend := .server { options := [("autocommit", .bool false)] }
    b.Twin b' ∧ visiting.Alike visiting ∧
      (visiting.run (.fresh .postgres b {} {})).2.events ≠
        (visiting.run (.fresh .postgres b' {} {})).2.events :=
  ⟨.servers _ _ _ _, visiting_alike,
    fun h => absurd (congrArg List.length h) (by decide +kernel)⟩

end RelMap
