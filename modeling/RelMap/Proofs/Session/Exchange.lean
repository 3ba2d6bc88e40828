import RelMap.Proofs.Result
import RelMap.Proofs.Session.Frame

/-!
# Exchanges with the driver

Operations of an adapter look at its state first.  For an adapter with a connection the rest of an
operation is a program on that connection: `control_of_connected`, `execute_of_connected` and
`executeMany_of_connected` say which.  The frames of these programs say how far they reach.

A control statement is known exactly (`controlOn_apply`): it returns if and only if the driver
raises nothing while it runs it.
-/

namespace RelMap

namespace Reply

/-- What a driver raises while it runs a control statement: it may refuse the cursor, and an error
of closing the cursor hides one of running the statement. -/
def raises (r : Reply) : Option Signal :=
  match r.refused with
  | some g => some g
  | none => if r.closes then r.closeError.or r.runError else r.runError

/-- What a driver is asked while it runs a control statement on a connection, from the position of
the next call on. -/
def controlCalls (r : Reply) (connection position : Nat) (statement : String) : List Call :=
  match r.refused with
  | some _ => [.openCursor connection none]
  | none => .openCursor connection (some position) :: .execute position statement [] ::
      if r.closes then [.closeCursor position] else []

/-- A control statement starts with the request for a cursor. -/
theorem openCursor_mem_controlCalls (r : Reply) (c n : Nat) (statement : String) :
    ∃ granted, .openCursor c granted ∈ r.controlCalls c n statement := by
  unfold controlCalls
  split
  · exact ⟨none, List.mem_cons_self⟩
  · exact ⟨some n, List.mem_cons_self⟩

theorem refused_of_raises {r : Reply} (h : r.raises = none) : r.refused = none := by
  unfold raises at h
  split at h
  · cases h
  · next hg => exact hg

/-- A control statement that returns has been run on a cursor of the connection. -/
theorem execute_mem_controlCalls {r : Reply} (h : r.raises = none) (c n : Nat)
    (statement : String) :
    .openCursor c (some n) ∈ r.controlCalls c n statement ∧
      .execute n statement [] ∈ r.controlCalls c n statement := by
  unfold raises at h
  unfold controlCalls
  split at h
  · cases h
  · exact ⟨List.mem_cons_self, List.mem_cons_of_mem _ List.mem_cons_self⟩

end Reply

namespace Call

/-- Is the call one of those by which a control statement is run on a connection? -/
def controls (connection : Nat) (statement : String) : Call → Prop
  | openCursor c _ => c = connection
  | execute _ sql params => sql = statement ∧ params = []
  | closeCursor _ => True
  | _ => False

/-- Is the call one of those by which a statement with parameters is run on a connection? -/
def executes (connection : Nat) (statement : String) (bound : List Value) : Call → Prop
  | openCursor c _ => c = connection
  | execute _ sql params => sql = statement ∧ params = bound
  | fetch _ => True
  | closeCursor _ => True
  | _ => False

/-- Is the call one of those by which a statement is run on a connection for several rows? -/
def executesMany (connection : Nat) (statement : String) (bound : List (List Value)) : Call → Prop
  | openCursor c _ => c = connection
  | executeMany _ sql sets => sql = statement ∧ sets = bound
  | closeCursor _ => True
  | _ => False

end Call

/-- A control statement asks nothing but what belongs to it. -/
theorem Reply.controls_of_mem {r : Reply} {c n : Nat} {statement : String} {k : Call}
    (h : k ∈ r.controlCalls c n statement) : k.controls c statement := by
  unfold controlCalls at h
  split at h
  · cases List.mem_singleton.mp h
    rfl
  · rcases List.mem_cons.mp h with rfl | h
    · rfl
    · rcases List.mem_cons.mp h with rfl | h
      · exact ⟨rfl, rfl⟩
      · split at h
        · cases List.mem_singleton.mp h
          trivial
        · cases h

namespace Run

theorem requireConnection_of_connected {s : Session} {c : Nat}
    (h : s.adapter.connection = some c) : requireConnection s = (.ok c, s) := by
  unfold requireConnection
  rw [bind_apply]
  simp only [adapter, h, pure_apply]

theorem requireConnection_of_disconnected {s : Session} (h : s.adapter.connection = none) :
    requireConnection s = (.error .notConnected, s) := by
  unfold requireConnection
  rw [bind_apply]
  simp only [adapter, h, fail]

/-- Operations that need a connection fail without one and do nothing else. -/
theorem bind_of_disconnected {α : Type} {s : Session} (h : s.adapter.connection = none)
    (f : Nat → Run α) : (requireConnection >>= f) s = (.error .notConnected, s) := by
  rw [bind_apply, requireConnection_of_disconnected h]

theorem bind_of_connected {α : Type} {s : Session} {c : Nat} (h : s.adapter.connection = some c)
    (f : Nat → Run α) : (requireConnection >>= f) s = f c s := by
  rw [bind_apply, requireConnection_of_connected h]

/-! ## Control statements -/

/-- Runs a statement that controls transactions on a connection. -/
def controlOn (connection : Nat) (statement : String) : Run Unit :=
  (withCursor connection fun cursor reply => do
    call (.execute cursor statement [])
    check reply.runError).onDriverError fun message => do
      report (.controlFailed statement message)
      fail (.executionFailed message statement none)

theorem control_of_connected {s : Session} {c : Nat} (h : s.adapter.connection = some c)
    (statement : String) : control statement s = controlOn c statement s :=
  bind_of_connected h _

theorem controlOn_frame (c : Nat) (statement : String) :
    Frame (Call.controls c statement) (controlOn c statement) := by
  refine (Frame.withCursor (fun _ => rfl) (fun _ => trivial) fun cursor reply => ?_).onDriverError
    fun m => ?_
  · exact (Frame.call ⟨rfl, rfl⟩).bind fun _ => Frame.check _
  · exact (Frame.report _).bind fun _ =>
      Frame.fail (Error.not_blamesState_executionFailed m statement none)

theorem closeCursor_apply (n : Nat) (r : Reply) (s : Session) :
    closeCursor n r s = if r.closes then
        (match r.closeError with
          | some g => (.error (.raised g), s.asking (.closeCursor n))
          | none => (.ok (), s.asking (.closeCursor n)))
      else (.ok (), s) := by
  unfold closeCursor
  split
  · cases r.closeError <;> rfl
  · rfl

theorem withCursor_control_apply (c : Nat) (statement : String) (s : Session) :
    withCursor c (fun cursor reply => do
      call (.execute cursor statement [])
      check reply.runError) s =
    ((match s.reply.raises with
      | some g => .error (.raised g)
      | none => .ok ()),
     { s.afterReply with
       calls := s.calls ++ s.reply.controlCalls c s.calls.length statement }) := by
  rw [withCursor_apply]
  unfold Reply.raises Reply.controlCalls
  cases s.reply.refused with
  | some g => rfl
  | none =>
    dsimp only
    rw [always_apply, closeCursor_apply]
    cases s.reply.closes <;> cases s.reply.closeError <;> cases s.reply.runError <;>
      simp [bind_apply, call, check, fail, Session.asking, Session.afterReply]

/-- **A control statement, exactly.**  It returns if and only if the driver raises nothing while it
runs it. -/
theorem controlOn_apply (c : Nat) (statement : String) (s : Session) :
    (controlOn c statement s).1 = (match s.reply.raises with
        | some (.driver m) => .error (.executionFailed m statement none)
        | some g => .error (.raised g)
        | none => .ok ()) ∧
      (controlOn c statement s).2.adapter = s.adapter ∧
      (controlOn c statement s).2.calls =
        s.calls ++ s.reply.controlCalls c s.calls.length statement := by
  unfold controlOn
  rw [onDriverError_apply, withCursor_control_apply]
  rcases s.reply.raises with _ | ⟨m | m | m⟩ <;> exact ⟨rfl, rfl, rfl⟩

theorem controlOn_ok_iff (c : Nat) (statement : String) (s : Session) :
    (controlOn c statement s).1 = .ok () ↔ s.reply.raises = none := by
  rw [(controlOn_apply c statement s).1]
  rcases s.reply.raises with _ | ⟨m | m | m⟩ <;> simp

/-! ## Statements of the caller -/

/-- Runs one statement with bound parameters on a connection. -/
def executeOn (connection : Nat) (sql : String) (bound : List Value) : Run QueryResult := do
  report (.executing sql bound.length)
  let result ← (withCursor connection fun cursor reply => do
    call (.execute cursor sql bound)
    check reply.runError
    readResult cursor reply).onDriverError fun message => do
      report (.executionFailed sql message)
      fail (.executionFailed message sql (some bound))
  countStatements 1
  return result

/-- Runs one statement on a connection once for each row of bound parameters. -/
def executeManyOn (connection : Nat) (sql : String) (bound : List (List Value)) :
    Run QueryResult := do
  report (.executingMany sql bound.length)
  let touched ← (withCursor connection fun cursor reply => do
    call (.executeMany cursor sql bound)
    check reply.runError
    ofResult reply.rowCount.touchedByMany).onDriverError fun message => do
      report (.executionFailed sql message)
      fail (.executionFailed message sql none)
  countStatements bound.length
  return { rowCount := touched }

/-- A statement on a connection, run as `ask` says and reported as `ev` says, of which `rest` reads
the result; it counts for `count` statements, and `shown` is what an error shows of its
parameters. -/
def statementOn {α : Type} (connection : Nat) (sql : String) (ev : Event) (ask : Nat → Call)
    (rest : Nat → Reply → Run α) (f : α → QueryResult) (count : Nat)
    (shown : Option (List Value)) : Run QueryResult := do
  report ev
  let x ← (withCursor connection fun cursor reply => do
    call (ask cursor)
    check reply.runError
    rest cursor reply).onDriverError fun message => do
      report (.executionFailed sql message)
      fail (.executionFailed message sql shown)
  countStatements count
  return f x

theorem executeOn_eq (c : Nat) (sql : String) (bound : List Value) :
    executeOn c sql bound = statementOn c sql (.executing sql bound.length)
      (fun cursor => .execute cursor sql bound) readResult (fun x => x) 1 (some bound) := rfl

theorem executeManyOn_eq (c : Nat) (sql : String) (bound : List (List Value)) :
    executeManyOn c sql bound = statementOn c sql (.executingMany sql bound.length)
      (fun cursor => .executeMany cursor sql bound)
      (fun _ reply => ofResult reply.rowCount.touchedByMany) (fun n => { rowCount := n })
      bound.length none := rfl

theorem execute_of_connected {s : Session} {c : Nat} (h : s.adapter.connection = some c)
    (sql : String) (params : Value) :
    execute sql params s =
      (ofResult (bindParams s.adapter.dialect params) >>= executeOn c sql) s :=
  bind_of_connected h _

theorem executeMany_of_connected {s : Session} {c : Nat} (h : s.adapter.connection = some c)
    (sql : String) (sets : Value) :
    executeMany sql sets s =
      (ofResult (bindSets s.adapter.dialect sets) >>= executeManyOn c sql) s :=
  bind_of_connected h _

theorem readResult_frame {asks : Call → Prop} {cursor : Nat} (h : asks (.fetch cursor))
    (reply : Reply) : Frame asks (readResult cursor reply) := by
  unfold readResult
  split
  · exact Frame.pure _
  · next names _ =>
    refine (Frame.call h).bind fun _ => (Frame.check _).bind fun _ => ?_
    refine (Frame.ofResult fun e he => ?_).bind fun _ => Frame.pure _
    obtain ⟨row, -, hrow⟩ := Result.exists_mem_of_mapM_eq_error he
    unfold DriverRow.toRow at hrow
    split at hrow <;> cases hrow
    simp [Error.blamesState, Error.kind]

theorem not_blamesState_of_touchedByMany {r : RowCount} {e : Error}
    (h : r.touchedByMany = .error e) : ¬ e.blamesState := by
  unfold RowCount.touchedByMany at h
  split at h <;> cases h
  exact Error.not_blamesState_fault .wrongType

theorem executeOn_frame (c : Nat) (sql : String) (bound : List Value) :
    Frame (Call.executes c sql bound) (executeOn c sql bound) := by
  refine (Frame.report _).bind fun _ => Frame.bind ?_ fun _ =>
    (Frame.countStatements 1).bind fun _ => Frame.pure _
  refine (Frame.withCursor (fun _ => rfl) (fun _ => trivial) fun cursor reply => ?_).onDriverError
    fun m => ?_
  · exact (Frame.call ⟨rfl, rfl⟩).bind fun _ => (Frame.check _).bind fun _ =>
      readResult_frame trivial reply
  · exact (Frame.report _).bind fun _ =>
      Frame.fail (Error.not_blamesState_executionFailed m sql (some bound))

theorem executeManyOn_frame (c : Nat) (sql : String) (bound : List (List Value)) :
    Frame (Call.executesMany c sql bound) (executeManyOn c sql bound) := by
  refine (Frame.report _).bind fun _ => Frame.bind ?_ fun _ =>
    (Frame.countStatements bound.length).bind fun _ => Frame.pure _
  refine (Frame.withCursor (fun _ => rfl) (fun _ => trivial) fun cursor reply => ?_).onDriverError
    fun m => ?_
  · exact (Frame.call ⟨rfl, rfl⟩).bind fun _ => (Frame.check _).bind fun _ =>
      Frame.ofResult fun _ => not_blamesState_of_touchedByMany
  · exact (Frame.report _).bind fun _ =>
      Frame.fail (Error.not_blamesState_executionFailed m sql none)

/-! ## Binding -/

/-- What is accepted for one dialect is accepted for every other, and as much is bound. -/
theorem exists_bindParams {d : Dialect} {v : Value} {ps : List Value}
    (h : bindParams d v = .ok ps) (d' : Dialect) :
    ∃ ps', bindParams d' v = .ok ps' ∧ ps'.length = ps.length := by
  revert h
  fun_cases bindParams d v with
  | case1 => exact fun h => ⟨[], rfl, by cases h; rfl⟩
  | case5 v hnull hmap hbytes htext vs hitems =>
    intro h
    obtain ⟨bound, hbound, rfl⟩ := Result.map_eq_ok.mp h
    refine ⟨bound.map d'.adapt, ?_, by simp⟩
    simp [bindParams, htext, hitems, hbound, Except.map]
  | _ => nofun

theorem exists_bindSets {d : Dialect} {v : Value} {rows : List (List Value)}
    (h : bindSets d v = .ok rows) (d' : Dialect) :
    ∃ rows', bindSets d' v = .ok rows' ∧ rows'.length = rows.length := by
  unfold bindSets at h ⊢
  split at h
  · next vs hitems =>
    have hrows : ∀ v ∈ vs, ∃ ps, bindParams d' v = .ok ps ∧ True := by
      intro v hv
      obtain ⟨ps, hps⟩ := Result.exists_of_mapM_eq_ok h hv
      obtain ⟨ps', hps', -⟩ := exists_bindParams hps d'
      exact ⟨ps', hps', trivial⟩
    obtain ⟨g, hg⟩ := Result.exists_function hrows
    refine ⟨vs.map g, Result.mapM_eq_ok_map fun v hv => (hg v hv).1, ?_⟩
    rw [List.length_map, Result.length_of_mapM_eq_ok h]
  · cases h

theorem not_blamesState_of_bindParams {d : Dialect} {params : Value} {e : Error}
    (h : bindParams d params = .error e) : ¬ e.blamesState := by
  unfold bindParams at h
  split at h
  · cases h
  · cases h
    simp [Error.blamesState, Error.kind]
  · cases h
    simp [Error.blamesState, Error.kind]
  · split at h
    · cases h
      simp [Error.blamesState, Error.kind]
    · split at h
      · obtain ⟨n, rfl⟩ := toParameters_eq_error (Result.map_eq_error.mp h)
        simp [Error.blamesState, Error.kind]
      · cases h
        exact Error.not_blamesState_fault .wrongType

theorem not_blamesState_of_bindSets {d : Dialect} {sets : Value} {e : Error}
    (h : bindSets d sets = .error e) : ¬ e.blamesState := by
  unfold bindSets at h
  split at h
  · obtain ⟨row, -, hrow⟩ := Result.exists_mem_of_mapM_eq_error h
    exact not_blamesState_of_bindParams hrow
  · cases h
    exact Error.not_blamesState_fault .wrongType

theorem execute_frame (c : Nat) (sql : String) (d : Dialect) (params : Value) :
    Frame (fun k => ∃ bound, k.executes c sql bound)
      (ofResult (bindParams d params) >>= executeOn c sql) := by
  refine (Frame.ofResult fun e he => not_blamesState_of_bindParams he).bind fun bound => ?_
  exact (executeOn_frame c sql bound).mono fun k hk => ⟨bound, hk⟩

theorem execute_dialect (sql : String) (params : Value) (s : Session) :
    (execute sql params s).2.adapter.dialect = s.adapter.dialect := by
  cases hc : s.adapter.connection with
  | none =>
    have hfailed : execute sql params s = (.error .notConnected, s) := bind_of_disconnected hc _
    rw [hfailed]
  | some c =>
    rw [execute_of_connected hc]
    exact (execute_frame c sql _ params).dialect s

theorem executeMany_frame (c : Nat) (sql : String) (d : Dialect) (sets : Value) :
    Frame (fun k => ∃ bound, k.executesMany c sql bound)
      (ofResult (bindSets d sets) >>= executeManyOn c sql) := by
  refine (Frame.ofResult fun e he => not_blamesState_of_bindSets he).bind fun bound => ?_
  exact (executeManyOn_frame c sql bound).mono fun k hk => ⟨bound, hk⟩

/-! ## One cursor for each statement -/

/-- A program that may ask nothing leaves the calls as they are. -/
theorem Frame.calls_eq {α : Type} {r : Run α} (h : Frame (fun _ => False) r) (s : Session) :
    (r s).2.calls = s.calls := by
  obtain ⟨new, hnew, hnone⟩ := h.calls s
  rw [hnew, List.eq_nil_iff_forall_not_mem.mpr hnone, List.append_nil]

theorem onDriverError_calls {α : Type} {r : Run α} {answer : String → Run α}
    (hanswer : ∀ m, Frame (fun _ => False) (answer m)) (s : Session) :
    (r.onDriverError answer s).2.calls = (r s).2.calls := by
  rw [onDriverError_apply]
  split
  · next m _ => exact (hanswer m).calls_eq _
  · rfl

theorem bind_calls {α β : Type} {r : Run α} {f : α → Run β}
    (hf : ∀ x, Frame (fun _ => False) (f x)) (s : Session) :
    ((r >>= f) s).2.calls = (r s).2.calls := by
  rw [bind_apply]
  rcases r s with ⟨e | x, t⟩
  · rfl
  · exact (hf x).calls_eq t

theorem closeCursor_calls (n : Nat) (r : Reply) (s : Session) :
    (closeCursor n r s).2.calls = s.calls ++ if r.closes then [.closeCursor n] else [] := by
  rw [closeCursor_apply]
  cases r.closes with
  | false => exact (List.append_nil _).symm
  | true => cases r.closeError <;> rfl

end Run

/-- What the driver is asked while one statement is run on a connection, from the position of the
next call on: for a cursor, which it may refuse; otherwise to run the statement on the cursor, then
perhaps for rows, and last to close the cursor, if it can be closed. -/
inductive Exchange (connection position : Nat) (statement : Call) (closes : Bool) :
    List Call → Prop
  | refused : Exchange connection position statement closes [.openCursor connection none]
  | granted {fetches : List Call} (h : ∀ k ∈ fetches, k = .fetch position) :
      Exchange connection position statement closes
        (.openCursor connection (some position) :: statement ::
          (fetches ++ if closes then [.closeCursor position] else []))

theorem Reply.exchange_controlCalls (r : Reply) (c n : Nat) (statement : String) :
    Exchange c n (.execute n statement []) r.closes (r.controlCalls c n statement) := by
  unfold controlCalls
  split
  · exact .refused
  · have hnone : ∀ k ∈ ([] : List Call), k = .fetch n := nofun
    exact .granted hnone

namespace Run

/-- A statement that is run on a new cursor, and of which at most rows are fetched, is an exchange
with the driver, however it ends. -/
theorem withCursor_exchange {α : Type} (c : Nat) {k : Nat → Call} {rest : Nat → Reply → Run α}
    (hrest : ∀ cursor reply, Frame (fun k => k = .fetch cursor) (rest cursor reply))
    (s : Session) :
    ∃ new, (withCursor c (fun cursor reply => do
        call (k cursor)
        rest cursor reply) s).2.calls = s.calls ++ new ∧
      Exchange c s.calls.length (k s.calls.length) s.reply.closes new := by
  rw [withCursor_apply]
  cases s.reply.refused with
  | some g => exact ⟨_, rfl, .refused⟩
  | none =>
    let u := (s.afterReply.asking (.openCursor c (some s.calls.length))).asking (k s.calls.length)
    obtain ⟨fetches, hfetches, hall⟩ := (hrest s.calls.length s.reply).calls u
    refine ⟨_, ?_, .granted hall⟩
    have hrun : (do
        call (k s.calls.length)
        rest s.calls.length s.reply : Run α)
          (s.afterReply.asking (.openCursor c (some s.calls.length))) =
        rest s.calls.length s.reply u := rfl
    have hu : u.calls = s.calls ++ [.openCursor c (some s.calls.length), k s.calls.length] :=
      List.append_assoc s.calls _ _
    dsimp only
    rw [always_session, hrun, closeCursor_calls, hfetches, hu, List.append_assoc, List.append_assoc]
    rfl

theorem executeOn_exchange (c : Nat) (sql : String) (bound : List Value) (s : Session) :
    ∃ new, (executeOn c sql bound s).2.calls = s.calls ++ new ∧
      Exchange c s.calls.length (.execute s.calls.length sql bound) s.reply.closes new := by
  obtain ⟨new, hnew, hexchange⟩ := withCursor_exchange c
    (k := fun cursor => .execute cursor sql bound)
    (fun cursor reply => (Frame.check reply.runError).bind fun _ =>
      readResult_frame (by rfl) reply)
    { s with events := s.events ++ [.executing sql bound.length] }
  refine ⟨new, ?_, hexchange⟩
  refine (bind_calls (fun _ => (Frame.countStatements 1).bind fun _ => Frame.pure _) _).trans ?_
  exact (onDriverError_calls (fun m => (Frame.report _).bind fun _ =>
    Frame.fail (Error.not_blamesState_executionFailed m sql (some bound))) _).trans hnew

theorem executeManyOn_exchange (c : Nat) (sql : String) (bound : List (List Value)) (s : Session) :
    ∃ new, (executeManyOn c sql bound s).2.calls = s.calls ++ new ∧
      Exchange c s.calls.length (.executeMany s.calls.length sql bound) s.reply.closes new := by
  obtain ⟨new, hnew, hexchange⟩ := withCursor_exchange c
    (k := fun cursor => .executeMany cursor sql bound)
    (fun cursor reply => (Frame.check reply.runError).bind fun _ =>
      Frame.ofResult fun _ => not_blamesState_of_touchedByMany)
    { s with events := s.events ++ [.executingMany sql bound.length] }
  refine ⟨new, ?_, hexchange⟩
  refine (bind_calls (fun _ => (Frame.countStatements _).bind fun _ => Frame.pure _) _).trans ?_
  exact (onDriverError_calls (fun m => (Frame.report _).bind fun _ =>
    Frame.fail (Error.not_blamesState_executionFailed m sql none)) _).trans hnew

end Run

end RelMap
