import RelMap.Proofs.Session.StateMachine

/-!
# The course of a call

What the driver is asked during one call of an operation, in order (`Occurrence.Course`).  A call
asks for one cursor at most and closes it before it ends, whatever the driver does in between.  A
connection comes of connecting and goes with disconnecting.

Cursors and connections need not be closable: what cannot be closed is given up without asking.
-/

namespace RelMap

/-! ## What is opened and closed -/

namespace Call

/-- The connection that the call hands out. -/
def opened? : Call → Option Nat
  | openConnection granted _ _ => granted
  | _ => none

/-- The connection that the call closes. -/
def released? : Call → Option Nat
  | closeConnection c => some c
  | _ => none

/-- The cursor that the call closes. -/
def closedCursor? : Call → Option Nat
  | closeCursor n => some n
  | _ => none

/-- The cursor that the call works on or closes. -/
def cursor? : Call → Option Nat
  | execute n _ _ => some n
  | executeMany n _ _ => some n
  | fetch n => some n
  | closeCursor n => some n
  | _ => none

/-- The connection that the call hands out, is made on or closes. -/
def connection? : Call → Option Nat
  | openConnection granted _ _ => granted
  | openCursor c _ => some c
  | closeConnection c => some c
  | _ => none

/-- The number that the call hands out, or the cursor that it works on or closes. -/
def number? : Call → Option Nat
  | openConnection granted _ _ => granted
  | openCursor _ granted => granted
  | k => k.cursor?

/-- Is the call made on the connection, or on a cursor that the connection granted during the
calls? -/
def Uses (calls : List Call) (c : Nat) (k : Call) : Prop :=
  k.connection? = some c ∨ ∃ n, k.cursor? = some n ∧ .openCursor c (some n) ∈ calls

/-- A call that works on a cursor speaks of no connection. -/
theorem of_cursor? {k : Call} {n : Nat} (h : k.cursor? = some n) :
    k.number? = some n ∧ k.connection? = none ∧ k.opened? = none := by
  cases k with
  | openConnection granted p a => cases h
  | openCursor c granted => cases h
  | closeConnection c => cases h
  | _ => exact ⟨h, rfl, rfl⟩

theorem of_opened? {k : Call} {c : Nat} (h : k.opened? = some c) :
    k.number? = some c ∧ k.connection? = some c := by
  cases k with
  | openConnection granted p a => exact ⟨h, h⟩
  | _ => cases h

/-- The call runs a statement on the cursor. -/
def RunsOn (n : Nat) : Call → Prop
  | execute m _ _ => m = n
  | executeMany m _ _ => m = n
  | _ => False

theorem RunsOn.eq_or {k : Call} {n : Nat} (h : k.RunsOn n) :
    (∃ sql params, k = .execute n sql params) ∨ ∃ sql sets, k = .executeMany n sql sets := by
  cases k with
  | execute m sql params => exact Or.inl ⟨sql, params, by rw [show m = n from h]⟩
  | executeMany m sql sets => exact Or.inr ⟨sql, sets, by rw [show m = n from h]⟩
  | _ => exact h.elim

end Call

/-- The connections that were handed out. -/
def openings (calls : List Call) : List Nat := calls.filterMap Call.opened?

/-- The connections that were closed. -/
def closings (calls : List Call) : List Nat := calls.filterMap Call.released?

/-- The cursors that were closed. -/
def cursorClosings (calls : List Call) : List Nat := calls.filterMap Call.closedCursor?

theorem mem_openings {calls : List Call} {c : Nat} :
    c ∈ openings calls ↔ ∃ k ∈ calls, k.opened? = some c := List.mem_filterMap

theorem mem_closings {calls : List Call} {c : Nat} :
    c ∈ closings calls ↔ .closeConnection c ∈ calls := by
  refine List.mem_filterMap.trans ⟨?_, fun h => ⟨_, h, rfl⟩⟩
  rintro ⟨k, hk, hc⟩
  cases k <;> cases hc
  exact hk

theorem mem_cursorClosings {calls : List Call} {n : Nat} :
    n ∈ cursorClosings calls ↔ .closeCursor n ∈ calls := by
  refine List.mem_filterMap.trans ⟨?_, fun h => ⟨_, h, rfl⟩⟩
  rintro ⟨k, hk, hn⟩
  cases k <;> cases hn
  exact hk

namespace Exchange

variable {c n m : Nat} {statement : Call} {closes : Bool} {calls : List Call} {k : Call}

/-- An exchange asks its connection for a cursor and then works on that cursor alone, whose number
is the position at which the exchange began. -/
theorem asks (h : Exchange c n statement closes calls) (hs : statement.RunsOn n) (hk : k ∈ calls) :
    (∃ granted, k = .openCursor c granted ∧ ∀ m, granted = some m → m = n) ∨
      k.cursor? = some n := by
  cases h with
  | refused => exact Or.inl ⟨none, List.mem_singleton.mp hk, nofun⟩
  | granted hfetches =>
    rcases List.mem_cons.mp hk with hk | hk
    · exact Or.inl ⟨some n, hk, fun m hm => (Option.some.inj hm).symm⟩
    right
    rcases List.mem_cons.mp hk with rfl | hk
    · obtain ⟨sql, params, rfl⟩ | ⟨sql, sets, rfl⟩ := hs.eq_or <;> rfl
    rcases List.mem_append.mp hk with hk | hk
    · rw [hfetches k hk]
      rfl
    · split at hk
      · rw [List.mem_singleton.mp hk]
        rfl
      · cases hk

/-- An exchange closes no connection. -/
theorem closings_eq (h : Exchange c n statement closes calls) (hs : statement.RunsOn n) :
    closings calls = [] := by
  refine List.eq_nil_iff_forall_not_mem.mpr fun d hd => ?_
  rcases h.asks hs (mem_closings.mp hd) with ⟨granted, heq, -⟩ | hcursor
  · cases heq
  · cases hcursor

/-- A cursor that is granted is closed once, if it can be. -/
theorem cursorClosings_eq (h : Exchange c n statement closes calls) (hs : statement.RunsOn n)
    {d : Nat} (hgranted : .openCursor d (some m) ∈ calls) :
    cursorClosings calls = if closes then [m] else [] := by
  obtain rfl : m = n := by
    rcases h.asks hs hgranted with ⟨granted, heq, hnumber⟩ | hcursor
    · cases heq
      exact hnumber m rfl
    · cases hcursor
  cases h with
  | refused => cases List.mem_singleton.mp hgranted
  | @granted fetches hfetches =>
    have hnone : fetches.filterMap Call.closedCursor? = [] := by
      refine List.filterMap_eq_nil_iff.mpr fun k hk => ?_
      rw [hfetches k hk]
      rfl
    have hstatement : statement.closedCursor? = none := by
      obtain ⟨sql, params, rfl⟩ | ⟨sql, sets, rfl⟩ := hs.eq_or <;> rfl
    unfold cursorClosings
    rw [List.filterMap_cons_none (by rfl), List.filterMap_cons_none hstatement,
      List.filterMap_append, hnone, List.nil_append]
    cases closes <;> rfl

end Exchange

/-! ## The course of one call -/

namespace Run

/-- What the driver is asked when a connection is given up: to close it, if it can be closed. -/
def releaseCalls (s : Session) (c : Nat) : List Call :=
  if s.closing.closes then [.closeConnection c] else []

theorem closeConnection_calls (c : Nat) (s : Session) :
    (closeConnection c s).2.calls = s.calls ++ releaseCalls s c := by
  unfold closeConnection releaseCalls
  split
  · cases s.closing.error <;> rfl
  · exact (List.append_nil _).symm

theorem release_calls (c : Nat) (a : Adapter) (s : Session) :
    (release c a s).2.calls = s.calls ++ releaseCalls s c :=
  (bind_calls (fun _ => Frame.report _) s).trans (closeConnection_calls c s)

/-- A control statement leaves the closing of connections to the driver as it is. -/
theorem controlOn_closing (c : Nat) (statement : String) (s : Session) :
    (controlOn c statement s).2.closing = s.closing := by
  unfold controlOn
  rw [onDriverError_apply, withCursor_control_apply]
  rcases s.reply.raises with _ | ⟨m | m | m⟩ <;> rfl

/-- What a disconnection asks: to roll an open transaction back, and then to close the
connection. -/
theorem disconnect_calls {s : Session} {c : Nat} (hc : s.adapter.connection = some c) :
    (disconnect s).2.calls = s.calls ++ (undoCalls s c ++ releaseCalls s c) := by
  obtain ⟨hcalls, -⟩ := undo_apply hc
  have hclosing : (undo s.adapter s).2.closing = s.closing := by
    unfold undo
    split
    · rw [control_of_connected hc]
      exact controlOn_closing c "ROLLBACK" s
    · rfl
  rw [disconnect_eq_always hc, always_session, ← List.append_assoc, ← hcalls]
  refine (release_calls c s.adapter _).trans ?_
  show _ ++ releaseCalls _ c = _ ++ releaseCalls s c
  unfold releaseCalls
  rw [← hclosing]

/-- What connecting asks: for a connection, which the driver may refuse. -/
theorem connect_calls {s : Session} (hc : s.adapter.connection = none) :
    (connect s).2.adapter.connection = none ∧ (connect s).2.calls = s.calls ∨
      ∃ granted p n, (connect s).2.adapter.connection = granted ∧
        (connect s).2.calls = s.calls ++ [.openConnection granted p n] ∧
        ∀ d, granted = some d → d = s.calls.length := by
  unfold connect
  rw [bind_apply]
  simp only [adapter, hc]
  rw [bind_apply, onDriverError_apply, openConnection_apply]
  rcases hb : s.adapter.backend.opening with e | ⟨p, n⟩
  · obtain rfl := opening_eq_error hb
    exact Or.inl ⟨hc, rfl⟩
  · right
    cases s.script.openError with
    | none => exact ⟨some s.calls.length, p, n, rfl, rfl, fun d hd => (Option.some.inj hd).symm⟩
    | some g => rcases g with m | m | m <;> exact ⟨none, p, n, hc, rfl, fun d hd => by cases hd⟩

end Run

namespace Occurrence

/-- A disconnection that finds the connection and gives it up. -/
def Takes (o : Occurrence) (c : Nat) : Prop := o.call = .disconnect ∧ o.connection = some c

/-- What the driver is asked during a call, in order, and which connection there is afterwards. -/
inductive Course (o : Occurrence) : Prop
  | silent (h : o.asked = []) (hafter : o.after.adapter.connection = o.connection)
      (htakes : ∀ c, ¬ o.Takes c)
  | opens (granted : Option Nat) (p : List Value) (n : Arguments)
      (hnumber : ∀ c, granted = some c → c = o.before.calls.length) (hc : o.connection = none)
      (h : o.asked = [.openConnection granted p n]) (hafter : o.after.adapter.connection = granted)
  | exchanges (c : Nat) (statement : Call) (hruns : statement.RunsOn o.before.calls.length)
      (hc : o.connection = some c) (hcall : o.call ≠ .disconnect)
      (h : Exchange c o.before.calls.length statement o.before.reply.closes o.asked)
      (hafter : o.after.adapter.connection = some c)
  | releases (c : Nat) (htakes : o.Takes c)
      (h : o.asked = Run.undoCalls o.before c ++ Run.releaseCalls o.before c)
      (hafter : o.after.adapter.connection = none)

variable {o : Occurrence} {s : Session} {c n : Nat} {k : Call}

theorem course_of_unchanged (hafter : o.after = o.before) (htakes : ∀ c, ¬ o.Takes c) :
    o.Course :=
  .silent (asked_of_unchanged hafter) (by rw [hafter]; rfl) htakes

/-- A call that runs one statement asks for it in one exchange, and for nothing if the statement
cannot be bound. -/
theorem course_of_exchange {statement : Call} (hruns : statement.RunsOn o.before.calls.length)
    (hc : o.connection = some c) (hcall : o.call ≠ .disconnect)
    (hafter : o.after.adapter.connection = o.connection)
    (hcalls : o.after.calls = o.before.calls ∨ ∃ new, o.after.calls = o.before.calls ++ new ∧
      Exchange c o.before.calls.length statement o.before.reply.closes new) : o.Course := by
  rcases hcalls with hsame | ⟨new, hnew, hexchange⟩
  · obtain ⟨hasked, -⟩ : o.asked = [] ∧ _ := calls_of_new o (by rw [hsame, List.append_nil])
    exact .silent hasked hafter fun c h => hcall h.1
  · obtain ⟨rfl, -⟩ := calls_of_new o hnew
    exact .exchanges c statement hruns hc hcall hexchange (by rw [hafter, hc])

theorem course_connect (s : Session) : Course ⟨.connect, s⟩ := by
  have hafter : after ⟨.connect, s⟩ = (Run.connect s).2 := by
    rw [after, AdapterCall.run, Run.map_apply]
  cases hc : s.adapter.connection with
  | some c =>
    refine course_of_unchanged ?_ (fun c h => by cases h.1)
    rw [hafter, Run.connect_of_connected hc]
  | none =>
    rcases Run.connect_calls hc with ⟨hnone, hcalls⟩ | ⟨granted, p, n, hgranted, hcalls, hnumber⟩
    · obtain ⟨hasked, -⟩ : asked ⟨.connect, s⟩ = [] ∧ _ :=
        calls_of_new ⟨.connect, s⟩ (by rw [hafter, hcalls, List.append_nil])
      exact .silent hasked (by rw [hafter, hnone]; exact hc.symm) fun c h => by cases h.1
    · obtain ⟨hasked, -⟩ := calls_of_new ⟨.connect, s⟩ (by rw [hafter, hcalls])
      exact .opens granted p n hnumber hc hasked (by rw [hafter, hgranted])

theorem course_disconnect (s : Session) : Course ⟨.disconnect, s⟩ := by
  have hafter : after ⟨.disconnect, s⟩ = (Run.disconnect s).2 := by
    rw [after, AdapterCall.run, Run.map_apply]
  cases hc : s.adapter.connection with
  | none =>
    refine course_of_unchanged ?_ ?_
    · rw [hafter, Run.disconnect_of_disconnected hc]
    · rintro c ⟨-, h⟩
      cases hc.symm.trans h
  | some c =>
    obtain ⟨hasked, -⟩ := calls_of_new ⟨.disconnect, s⟩ (by rw [hafter, Run.disconnect_calls hc])
    refine .releases c ⟨rfl, hc⟩ hasked ?_
    rw [hafter, (Run.disconnect_of_connected hc).1]

theorem course_execute (hc : s.adapter.connection = some c) (sql : String) (params : Value) :
    Course ⟨.execute sql params, s⟩ := by
  have hafter : after ⟨.execute sql params, s⟩ = (Run.execute sql params s).2 := by
    rw [after, AdapterCall.run, Run.map_apply]
  have hrun := Run.execute_of_connected hc sql params
  have hframe := (Run.execute_frame c sql s.adapter.dialect params).connection s
  rw [← hrun, ← hafter] at hframe
  have hruns : (Call.execute s.calls.length sql
      ((bindParams s.adapter.dialect params).toOption.getD [])).RunsOn s.calls.length := rfl
  refine course_of_exchange hruns hc (fun h => by cases h) hframe ?_
  rw [hafter, hrun]
  cases hbind : bindParams s.adapter.dialect params with
  | error e => exact Or.inl rfl
  | ok bound => exact Or.inr (Run.executeOn_exchange c sql bound s)

theorem course_executeMany (hc : s.adapter.connection = some c) (sql : String) (sets : Value) :
    Course ⟨.executeMany sql sets, s⟩ := by
  have hafter : after ⟨.executeMany sql sets, s⟩ = (Run.executeMany sql sets s).2 := by
    rw [after, AdapterCall.run, Run.map_apply]
  have hrun := Run.executeMany_of_connected hc sql sets
  have hframe := (Run.executeMany_frame c sql s.adapter.dialect sets).connection s
  rw [← hrun, ← hafter] at hframe
  have hruns : (Call.executeMany s.calls.length sql
      ((bindSets s.adapter.dialect sets).toOption.getD [])).RunsOn s.calls.length := rfl
  refine course_of_exchange hruns hc (fun h => by cases h) hframe ?_
  rw [hafter, hrun]
  cases hbind : bindSets s.adapter.dialect sets with
  | error e => exact Or.inl rfl
  | ok bound => exact Or.inr (Run.executeManyOn_exchange c sql bound s)

/-- A call that runs a control statement on its connection. -/
theorem course_of_control {statement : String} (hc : o.connection = some c)
    (hcall : o.call ≠ .disconnect) (hafter : o.after.adapter.connection = o.connection)
    (hcalls : o.after.calls =
      o.before.calls ++ o.before.reply.controlCalls c o.before.calls.length statement) :
    o.Course := by
  have hruns : (Call.execute o.before.calls.length statement []).RunsOn o.before.calls.length := rfl
  exact course_of_exchange hruns hc hcall hafter
    (Or.inr ⟨_, hcalls, Reply.exchange_controlCalls _ c _ statement⟩)

theorem course_beginTransaction (hc : s.adapter.connection = some c)
    (ht : s.adapter.inTransaction = false) : Course ⟨.beginTransaction, s⟩ := by
  obtain ⟨x, t, hbegin, hnew, hgo⟩ := Run.controlOn_then_setTransaction c "BEGIN" true .begun s
  rw [← Run.beginTransaction_of_idle hc ht] at hbegin
  have hafter : after ⟨.beginTransaction, s⟩ = t := by
    rw [after, AdapterCall.run, Run.map_apply, hbegin]
  refine course_of_control hc (fun h => by cases h) ?_ (by rw [hafter, hnew])
  rcases hgo with ⟨-, -, hadapter⟩ | ⟨-, -, hadapter⟩ <;> rw [hafter, hadapter] <;> rfl

theorem course_commit (hc : s.adapter.connection = some c)
    (ht : s.adapter.inTransaction = true) : Course ⟨.commit, s⟩ := by
  obtain ⟨x, t, hcommit, hnew, hgo⟩ :=
    Run.controlOn_then_setTransaction c "COMMIT" false .committed s
  rw [← Run.commit_of_active hc ht] at hcommit
  have hafter : after ⟨.commit, s⟩ = t := by
    rw [after, AdapterCall.run, Run.map_apply, hcommit]
  refine course_of_control hc (fun h => by cases h) ?_ (by rw [hafter, hnew])
  rcases hgo with ⟨-, -, hadapter⟩ | ⟨-, -, hadapter⟩ <;> rw [hafter, hadapter] <;> rfl

theorem course_rollback (hc : s.adapter.connection = some c)
    (ht : s.adapter.inTransaction = true) : Course ⟨.rollback, s⟩ := by
  obtain ⟨x, t, hroll, hnew, hadapter, -⟩ := Run.rollback_of_active hc ht
  have hafter : after ⟨.rollback, s⟩ = t := by
    rw [after, AdapterCall.run, Run.map_apply, hroll]
  refine course_of_control hc (fun h => by cases h) ?_ (by rw [hafter, hnew])
  rw [hafter, hadapter]
  rfl

/-- **Every call takes one of the courses**, whatever the driver does. -/
theorem course (o : Occurrence) : o.Course := by
  by_cases hneeds : o.Unconnected
  · refine course_of_unchanged (refused_of_unconnected hneeds).2 fun c h => ?_
    cases hneeds.2.symm.trans h.2
  by_cases hplace : o.Misplaced
  · obtain ⟨e, -, -, hafter⟩ := refused_of_misplaced hplace
    refine course_of_unchanged hafter fun c h => ?_
    rcases hplace.2 with ⟨hcall, -⟩ | ⟨hcall | hcall, -⟩ <;> cases hcall.symm.trans h.1
  obtain ⟨call, s⟩ := o
  have hconnected : call.needsConnection → ∃ c, s.adapter.connection = some c :=
    fun hcall => Option.ne_none_iff_exists'.mp fun hc => hneeds ⟨hcall, hc⟩
  have hfits : ∀ {c}, s.adapter.connection = some c → connection ⟨call, s⟩ ≠ none :=
    fun hc => Option.ne_none_iff_exists'.mpr ⟨_, hc⟩
  cases call with
  | connect => exact course_connect s
  | disconnect => exact course_disconnect s
  | execute sql params =>
    obtain ⟨c, hc⟩ := hconnected trivial
    exact course_execute hc sql params
  | executeMany sql sets =>
    obtain ⟨c, hc⟩ := hconnected trivial
    exact course_executeMany hc sql sets
  | beginTransaction =>
    obtain ⟨c, hc⟩ := hconnected trivial
    refine course_beginTransaction hc (Bool.eq_false_iff.mpr fun ht => ?_)
    exact hplace ⟨hfits hc, .inl ⟨rfl, ht⟩⟩
  | commit =>
    obtain ⟨c, hc⟩ := hconnected trivial
    refine course_commit hc (Bool.not_eq_false _ ▸ fun ht => ?_)
    exact hplace ⟨hfits hc, .inr ⟨.inl rfl, ht⟩⟩
  | rollback =>
    obtain ⟨c, hc⟩ := hconnected trivial
    refine course_rollback hc (Bool.not_eq_false _ ▸ fun ht => ?_)
    exact hplace ⟨hfits hc, .inr ⟨.inr rfl, ht⟩⟩

/-! ## What a call speaks of -/

/-- What a disconnection asks before it gives the connection up is nothing or an exchange. -/
theorem undoCalls_eq_or (s : Session) (c : Nat) : Run.undoCalls s c = [] ∨
    Exchange c s.calls.length (.execute s.calls.length "ROLLBACK" []) s.reply.closes
      (Run.undoCalls s c) := by
  unfold Run.undoCalls
  split
  · exact Or.inr (Reply.exchange_controlCalls _ c _ "ROLLBACK")
  · exact Or.inl rfl

theorem mem_releaseCalls : k ∈ Run.releaseCalls s c ↔
    k = .closeConnection c ∧ s.closing.closes = true := by
  unfold Run.releaseCalls
  cases s.closing.closes with
  | false => simp
  | true => simp

/-- What a disconnection that finds a connection asks, and what it leaves. -/
theorem asked_of_takes (h : o.Takes c) :
    o.asked = Run.undoCalls o.before c ++ Run.releaseCalls o.before c ∧
      o.after.adapter.connection = none := by
  rcases o.course with ⟨-, -, htakes⟩ | ⟨-, -, -, -, hc, -, -⟩ | ⟨-, -, -, -, hcall, -, -⟩ |
    ⟨c', htakes, hasked, hafter⟩
  · exact (htakes c h).elim
  · cases hc.symm.trans h.2
  · exact (hcall h.1).elim
  · obtain rfl : c' = c := Option.some.inj (htakes.2.symm.trans h.2)
    exact ⟨hasked, hafter⟩

/-- What the driver may be asked during a call. -/
inductive Asks (o : Occurrence) : Call → Prop
  | opens {granted : Option Nat} {p : List Value} {a : Arguments}
      (hnumber : ∀ c, granted = some c → c = o.before.calls.length) (hc : o.connection = none)
      (hafter : o.after.adapter.connection = granted) : Asks o (.openConnection granted p a)
  | begins {c : Nat} {granted : Option Nat}
      (hnumber : ∀ n, granted = some n → n = o.before.calls.length) (hc : o.connection = some c) :
      Asks o (.openCursor c granted)
  | works {k : Call} (hk : k.cursor? = some o.before.calls.length) : Asks o k
  | closes {c : Nat} (htakes : o.Takes c) (hcloses : o.before.closing.closes = true) :
      Asks o (.closeConnection c)

theorem asks_of_exchange {statement : Call} {calls : List Call}
    (h : Exchange c o.before.calls.length statement o.before.reply.closes calls)
    (hs : statement.RunsOn o.before.calls.length) (hc : o.connection = some c) (hk : k ∈ calls) :
    o.Asks k := by
  rcases h.asks hs hk with ⟨granted, rfl, hnumber⟩ | hcursor
  · exact .begins hnumber hc
  · exact .works hcursor

/-- Nothing else is asked of the driver. -/
theorem asks (hk : k ∈ o.asked) : o.Asks k := by
  rcases o.course with ⟨h, -, -⟩ | ⟨granted, p, a, hnumber, hnone, h, hafter⟩ |
    ⟨d, statement, hruns, hd, -, h, -⟩ | ⟨d, htakes, h, -⟩
  · rw [h] at hk
    cases hk
  · rw [h] at hk
    cases List.mem_singleton.mp hk
    exact .opens hnumber hnone hafter
  · exact asks_of_exchange h hruns hd hk
  · rw [h] at hk
    rcases List.mem_append.mp hk with hk | hk
    · rcases undoCalls_eq_or o.before d with hnil | hundo
      · rw [hnil] at hk
        cases hk
      · exact asks_of_exchange hundo rfl htakes.2 hk
    · obtain ⟨rfl, hcloses⟩ := mem_releaseCalls.mp hk
      exact .closes htakes hcloses

/-- A number that is spoken of during a call is the position at which the call began. -/
theorem number_eq (hk : k ∈ o.asked) (hn : k.number? = some n) : n = o.before.calls.length := by
  cases asks hk with
  | opens hnumber hc hafter => exact hnumber n hn
  | begins hnumber hc => exact hnumber n hn
  | works hcursor => exact Option.some.inj (hn.symm.trans (Call.of_cursor? hcursor).1)
  | closes htakes hcloses => cases hn

/-- A connection that a call speaks of is handed out to it, or is the one that it found. -/
theorem opened_or_found (hk : k ∈ o.asked) (hc : k.connection? = some c) :
    k.opened? = some c ∨ o.connection = some c := by
  cases asks hk with
  | opens hnumber hnone hafter => exact Or.inl hc
  | begins hnumber hd =>
    cases hc
    exact Or.inr hd
  | works hcursor => cases (Call.of_cursor? hcursor).2.1.symm.trans hc
  | closes htakes hcloses =>
    cases hc
    exact Or.inr htakes.2

/-- A connection is handed out to a call that finds none, and is there afterwards. -/
theorem connection_of_opened (hk : k ∈ o.asked) (hc : k.opened? = some c) :
    o.connection = none ∧ o.after.adapter.connection = some c := by
  cases asks hk with
  | opens hnumber hnone hafter => exact ⟨hnone, hafter.trans hc⟩
  | begins hnumber hd => cases hc
  | works hcursor => cases (Call.of_cursor? hcursor).2.2.symm.trans hc
  | closes htakes hcloses => cases hc

/-- A connection is closed by a disconnection that finds it, if it can be closed, and by no other
call. -/
theorem closeConnection_mem_iff :
    .closeConnection c ∈ o.asked ↔ o.Takes c ∧ o.before.closing.closes = true := by
  constructor
  · intro hk
    cases asks hk with
    | works hcursor => cases hcursor
    | closes htakes hcloses => exact ⟨htakes, hcloses⟩
  · rintro ⟨htakes, hcloses⟩
    rw [(asked_of_takes htakes).1]
    exact List.mem_append_right _ (mem_releaseCalls.mpr ⟨rfl, hcloses⟩)

/-- A call closes one connection at most. -/
theorem nodup_closings_asked (o : Occurrence) : (closings o.asked).Nodup := by
  rcases o.course with ⟨h, -, -⟩ | ⟨granted, p, a, -, -, h, -⟩ |
    ⟨d, statement, hruns, -, -, h, -⟩ | ⟨d, -, h, -⟩
  · rw [h]
    exact List.nodup_nil
  · rw [h]
    exact List.nodup_nil
  · rw [h.closings_eq hruns]
    exact List.nodup_nil
  · have hundo : closings (Run.undoCalls o.before d) = [] := by
      rcases undoCalls_eq_or o.before d with hnil | hundo
      · rw [hnil]
        rfl
      · exact hundo.closings_eq rfl
    rw [h, closings, List.filterMap_append, ← closings, ← closings, hundo, List.nil_append]
    unfold Run.releaseCalls
    split
    · exact List.pairwise_singleton _ d
    · exact List.nodup_nil

/-- A cursor that a call is granted is closed during the call, once, if it can be closed. -/
theorem cursorClosings_asked (h : .openCursor c (some n) ∈ o.asked) :
    cursorClosings o.asked = if o.before.reply.closes then [n] else [] := by
  rcases o.course with ⟨hasked, -, -⟩ | ⟨granted, p, a, -, -, hasked, -⟩ |
    ⟨d, statement, hruns, -, -, hexchange, -⟩ | ⟨d, htakes, hasked, -⟩
  · rw [hasked] at h
    cases h
  · rw [hasked] at h
    cases List.mem_singleton.mp h
  · exact hexchange.cursorClosings_eq hruns h
  · have hrelease : cursorClosings (Run.releaseCalls o.before d) = [] := by
      refine List.filterMap_eq_nil_iff.mpr fun k hk => ?_
      obtain ⟨rfl, -⟩ := mem_releaseCalls.mp hk
      rfl
    rw [hasked] at h ⊢
    rw [cursorClosings, List.filterMap_append, ← cursorClosings, ← cursorClosings, hrelease,
      List.append_nil]
    rcases List.mem_append.mp h with h | h
    · rcases undoCalls_eq_or o.before d with hnil | hundo
      · rw [hnil] at h
        cases h
      · exact hundo.cursorClosings_eq rfl h
    · cases (mem_releaseCalls.mp h).1

end Occurrence

end RelMap
