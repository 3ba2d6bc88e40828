import RelMap.Proofs.Session.Transition
import RelMap.Scenario

/-!
# Histories

What has happened to an adapter is a list of occurrences: calls of its operations, each with the
session that it found.  A call that does not fit the state is refused and changes nothing.  A call
that fits passes: what it then sends, and how it can change the state, is `Occurrence.Passed`, which
is established for one operation after the other.
-/

namespace RelMap

theorem Run.map_apply {α β : Type} (f : α → β) (r : Run α) (s : Session) :
    (f <$> r) s = ((r s).1.map f, (r s).2) := by
  show (r >>= fun x => pure (f x)) s = _
  rw [bind_apply]
  rcases r s with ⟨e | x, t⟩ <;> rfl

/-- The operations of an adapter. -/
inductive AdapterCall where
  | connect
  | disconnect
  | execute (sql : String) (params : Value)
  | executeMany (sql : String) (sets : Value)
  | beginTransaction
  | commit
  | rollback

namespace AdapterCall

def run : AdapterCall → Run (Option QueryResult)
  | connect => (fun _ => none) <$> Run.connect
  | disconnect => (fun _ => none) <$> Run.disconnect
  | execute sql params => some <$> Run.execute sql params
  | executeMany sql sets => some <$> Run.executeMany sql sets
  | beginTransaction => (fun _ => none) <$> Run.beginTransaction
  | commit => (fun _ => none) <$> Run.commit
  | rollback => (fun _ => none) <$> Run.rollback

/-- Does the operation fail on an adapter without a connection? -/
def needsConnection : AdapterCall → Prop
  | connect => False
  | disconnect => False
  | _ => True

end AdapterCall

/-- A call of an operation, on the session that it found. -/
structure Occurrence where
  call : AdapterCall
  before : Session

namespace Occurrence

variable (o : Occurrence)

def outcome : Result (Option QueryResult) := (o.call.run o.before).1

def after : Session := (o.call.run o.before).2

/-- What the driver was asked during the call. -/
def asked : List Call := o.after.callsSince o.before

/-- The number of the connection that the call found. -/
def connection : Option Nat := o.before.adapter.connection

/-- Did the call find a transaction open? -/
def active : Bool := o.before.adapter.inTransaction

def Raises (k : ErrorKind) : Prop := ∃ e, o.outcome = .error e ∧ e.kind = k

/-- A control statement was run on a cursor of the connection. -/
def Sends (connection : Nat) (statement : String) : Prop :=
  ∃ cursor, .openCursor connection (some cursor) ∈ o.asked ∧ .execute cursor statement [] ∈ o.asked

/-- A transaction was begun on the connection: the call returned after the driver ran `BEGIN`. -/
def BeginsOn (connection : Nat) : Prop :=
  o.call = .beginTransaction ∧ o.outcome = .ok none ∧ o.Sends connection "BEGIN"

/-- A transaction was committed on the connection: the call returned after the driver ran
`COMMIT`. -/
def CommitsOn (connection : Nat) : Prop :=
  o.call = .commit ∧ o.outcome = .ok none ∧ o.Sends connection "COMMIT"

/-- The driver was asked for a cursor to roll back on the connection, whatever came of it. -/
def TriesRollbackOn (connection : Nat) : Prop :=
  (o.call = .rollback ∨ o.call = .disconnect) ∧ ∃ granted, .openCursor connection granted ∈ o.asked

end Occurrence

namespace Occurrence

variable {o : Occurrence}

/-! ## Calls that are refused -/

/-- The call needs a connection and finds none. -/
def Unconnected (o : Occurrence) : Prop := o.call.needsConnection ∧ o.connection = none

/-- The call begins a second transaction, or ends one where there is none. -/
def Misplaced (o : Occurrence) : Prop :=
  o.connection ≠ none ∧ (o.call = .beginTransaction ∧ o.active = true ∨
    (o.call = .commit ∨ o.call = .rollback) ∧ o.active = false)

theorem of_run {call : AdapterCall} {s t : Session} {x : Result (Option QueryResult)}
    (h : call.run s = (x, t)) :
    outcome ⟨call, s⟩ = x ∧ after ⟨call, s⟩ = t := by
  unfold outcome after
  rw [h]
  exact ⟨rfl, rfl⟩

theorem refused_of_unconnected (h : o.Unconnected) :
    o.outcome = .error .notConnected ∧ o.after = o.before := by
  obtain ⟨call, s⟩ := o
  obtain ⟨hcall, hc⟩ := h
  have hs : s.adapter.connection = none := hc
  apply of_run
  cases call with
  | connect => exact hcall.elim
  | disconnect => exact hcall.elim
  | execute sql params =>
    have hrun : Run.execute sql params s = _ := Run.bind_of_disconnected hs _
    rw [AdapterCall.run, Run.map_apply, hrun]
    rfl
  | executeMany sql sets =>
    have hrun : Run.executeMany sql sets s = _ := Run.bind_of_disconnected hs _
    rw [AdapterCall.run, Run.map_apply, hrun]
    rfl
  | beginTransaction =>
    rw [AdapterCall.run, Run.map_apply, Run.beginTransaction_of_disconnected hs]
    rfl
  | commit =>
    rw [AdapterCall.run, Run.map_apply, Run.commit_of_disconnected hs]
    rfl
  | rollback =>
    rw [AdapterCall.run, Run.map_apply, Run.rollback_of_disconnected hs]
    rfl

theorem refused_of_misplaced (h : o.Misplaced) :
    ∃ e, o.outcome = .error e ∧ e.kind = .transactionState ∧ o.after = o.before := by
  obtain ⟨call, s⟩ := o
  obtain ⟨hc, h⟩ := h
  obtain ⟨c, hs⟩ := Option.ne_none_iff_exists'.mp hc
  have hrefused : ∀ e : Error, call.run s = (.error e, s) → e.kind = .transactionState →
      ∃ e, outcome ⟨call, s⟩ = .error e ∧ e.kind = .transactionState ∧ after ⟨call, s⟩ = s := by
    intro e hrun hkind
    obtain ⟨hout, hafter⟩ := of_run hrun
    exact ⟨e, hout, hkind, hafter⟩
  rcases h with ⟨rfl, ht⟩ | ⟨rfl | rfl, ht⟩
  · refine hrefused .transactionActive ?_ rfl
    rw [AdapterCall.run, Run.map_apply, Run.beginTransaction_of_active hs ht]
    rfl
  · refine hrefused .nothingToCommit ?_ rfl
    rw [AdapterCall.run, Run.map_apply, Run.commit_of_idle hs ht]
    rfl
  · refine hrefused .nothingToRollBack ?_ rfl
    rw [AdapterCall.run, Run.map_apply, Run.rollback_of_idle hs ht]
    rfl

/-! ## Calls that pass -/

/-- The ways in which a call can change the state of the adapter. -/
inductive Change (o : Occurrence) : Prop
  | keeps (hc : o.after.adapter.connection = o.connection)
      (ht : o.after.adapter.inTransaction = o.active) (hbegins : ∀ c, ¬ o.BeginsOn c)
      (hcommits : ∀ c, ¬ o.CommitsOn c) (htries : ∀ c, ¬ o.TriesRollbackOn c)
  | opens (hc : o.connection = none)
      (hc' : o.after.adapter.connection = some o.before.calls.length)
      (ht : o.after.adapter.inTransaction = false)
      (hlt : o.before.calls.length < o.after.calls.length)
  | begins (c : Nat) (hc : o.connection = some c) (hc' : o.after.adapter.connection = some c)
      (ht : o.after.adapter.inTransaction = true) (h : o.BeginsOn c)
  | commits (c : Nat) (hc : o.connection = some c) (hc' : o.after.adapter.connection = some c)
      (ht : o.after.adapter.inTransaction = false) (h : o.CommitsOn c)
  | rollsBack (c : Nat) (hc : o.connection = some c) (hc' : o.after.adapter.connection = some c)
      (ht : o.after.adapter.inTransaction = false) (h : o.TriesRollbackOn c)
  | closes (hc' : o.after.adapter.connection = none) (ht : o.after.adapter.inTransaction = false)

/-- A statement fits the call during which the driver is asked to run it: it is the caller's own, or
it controls transactions and fits the state. -/
def Accounts (o : Occurrence) (sql : String) (params : List Value) : Prop :=
  (∃ given, o.call = .execute sql given) ∨ params = [] ∧
    (o.call = .beginTransaction ∧ sql = "BEGIN" ∧ o.active = false ∨
      o.call = .commit ∧ sql = "COMMIT" ∧ o.active = true ∨
      (o.call = .rollback ∨ o.call = .disconnect) ∧ sql = "ROLLBACK" ∧ o.active = true)

/-- What the driver may be asked during a call. -/
def Permits (o : Occurrence) : Call → Prop
  | .openCursor c _ => o.connection = some c
  | .execute _ sql params => o.Accounts sql params
  | .executeMany _ sql _ => ∃ given, o.call = .executeMany sql given
  | _ => True

/-- What a call does that fits the state. -/
structure Passed (o : Occurrence) : Prop where
  calls : o.after.calls = o.before.calls ++ o.asked
  asked : ∀ k ∈ o.asked, o.Permits k
  errors : ∀ e, o.outcome = .error e → ¬ e.blamesState
  change : o.Change

theorem calls_of_new (o : Occurrence) {new : List Call}
    (h : o.after.calls = o.before.calls ++ new) :
    o.asked = new ∧ o.after.calls = o.before.calls ++ o.asked := by
  have hasked : o.asked = new := by
    unfold asked Session.callsSince
    rw [h, List.drop_left]
  exact ⟨hasked, by rw [hasked, h]⟩

/-- A call that does not return leaves the state as it is, unless it was to end a transaction
without a commit. -/
theorem change_of_failed (hadapter : o.after.adapter = o.before.adapter)
    (hout : o.outcome ≠ .ok none) (hend : o.call ≠ .rollback ∧ o.call ≠ .disconnect) :
    o.Change := by
  refine .keeps ?_ ?_ ?_ ?_ ?_
  · rw [hadapter]
    rfl
  · rw [hadapter]
    rfl
  · intro c h
    exact hout h.2.1
  · intro c h
    exact hout h.2.1
  · rintro c ⟨h | h, -⟩
    · exact hend.1 h
    · exact hend.2 h

theorem passed_of_idle (hafter : o.after = o.before) (hout : o.outcome = .ok none)
    (hbegin : o.call ≠ .beginTransaction) (hcommit : o.call ≠ .commit) : o.Passed := by
  obtain ⟨hasked, hcalls⟩ : o.asked = [] ∧ _ := calls_of_new o (by rw [hafter, List.append_nil])
  refine ⟨hcalls, ?_, ?_, ?_⟩
  · rw [hasked]
    nofun
  · rw [hout]
    nofun
  · refine .keeps (by rw [hafter]; rfl) (by rw [hafter]; rfl) ?_ ?_ ?_
    · exact fun c h => hbegin h.1
    · exact fun c h => hcommit h.1
    · rintro c ⟨-, granted, h⟩
      rw [hasked] at h
      cases h

/-- A call passes that runs as a program with a frame does, and ends and begins no transaction. -/
theorem passed_of_frame {α : Type} {asks : Call → Prop} {r : Run α} (hr : Run.Frame asks r)
    {f : α → Option QueryResult}
    (hrun : o.call.run o.before = ((r o.before).1.map f, (r o.before).2))
    (hasks : ∀ k, asks k → o.Permits k) (hbegin : o.call ≠ .beginTransaction)
    (hcommit : o.call ≠ .commit) (hend : o.call ≠ .rollback ∧ o.call ≠ .disconnect) :
    o.Passed := by
  have hafter : o.after = (r o.before).2 := by rw [after, hrun]
  obtain ⟨new, hnew, hmem⟩ := hr.calls o.before
  obtain ⟨hasked, hcalls⟩ := calls_of_new o (by rw [hafter, hnew])
  refine ⟨hcalls, ?_, ?_, ?_⟩
  · intro k hk
    rw [hasked] at hk
    exact hasks k (hmem k hk)
  · intro e he
    rw [outcome, hrun] at he
    exact hr.errors o.before e (Result.map_eq_error.mp he)
  · refine .keeps ?_ ?_ (fun c h => hbegin h.1) (fun c h => hcommit h.1) ?_
    · rw [hafter, hr.connection]
      rfl
    · rw [hafter, hr.inTransaction]
      rfl
    · rintro c ⟨h | h, -⟩
      · exact hend.1 h
      · exact hend.2 h

/-! ### One operation after the other -/

variable {s : Session} {c : Nat}

theorem passed_connect (s : Session) : Passed ⟨.connect, s⟩ := by
  have hrun : AdapterCall.connect.run s = ((Run.connect s).1.map _, (Run.connect s).2) :=
    Run.map_apply _ _ s
  cases hc : s.adapter.connection with
  | some c =>
    rw [Run.connect_of_connected hc] at hrun
    obtain ⟨hout, hafter⟩ := of_run hrun
    exact passed_of_idle hafter hout nofun nofun
  | none =>
    rcases Run.connect_of_disconnected hc with
      ⟨e, t, he, hblames, hadapter, new, hnew, hopens⟩ | ⟨t, p, n, ht, hadapter, hnew⟩
    · rw [he] at hrun
      obtain ⟨hout, hafter⟩ := of_run hrun
      obtain ⟨hasked, hcalls⟩ := calls_of_new ⟨.connect, s⟩ (by rw [hafter, hnew])
      have hasked' : ∀ k ∈ asked ⟨.connect, s⟩, ∃ g p n, k = .openConnection g p n := by
        rw [hasked]
        exact hopens
      refine ⟨hcalls, ?_, ?_, change_of_failed ?_ ?_ ⟨nofun, nofun⟩⟩
      · intro k hk
        obtain ⟨g, p, n, rfl⟩ := hasked' k hk
        trivial
      · intro e' he'
        rw [hout] at he'
        cases he'
        exact hblames
      · rw [hafter, hadapter]
      · rw [hout]
        nofun
    · rw [ht] at hrun
      obtain ⟨hout, hafter⟩ := of_run hrun
      obtain ⟨hasked, hcalls⟩ := calls_of_new ⟨.connect, s⟩ (by rw [hafter, hnew])
      refine ⟨hcalls, ?_, ?_, .opens hc ?_ ?_ ?_⟩
      · rw [hasked]
        intro k hk
        cases List.mem_singleton.mp hk
        trivial
      · rw [hout]
        nofun
      · rw [hafter, hadapter]
      · rw [hafter, hadapter]
      · rw [hafter, hnew, List.length_append]
        exact Nat.lt_succ_self _

theorem permits_of_controls {stmt : String} {k : Call} (hc : o.connection = some c)
    (h : o.Accounts stmt []) (hk : k.controls c stmt) : o.Permits k := by
  cases k with
  | openCursor c' g =>
    have hsame : c' = c := hk
    rw [hsame]
    exact hc
  | execute n sql params =>
    obtain ⟨rfl, rfl⟩ : sql = stmt ∧ params = [] := hk
    exact h
  | closeCursor n => trivial
  | _ => cases hk

theorem passed_disconnect (s : Session) : Passed ⟨.disconnect, s⟩ := by
  have hrun : AdapterCall.disconnect.run s = ((Run.disconnect s).1.map _, (Run.disconnect s).2) :=
    Run.map_apply _ _ s
  cases hc : s.adapter.connection with
  | none =>
    rw [Run.disconnect_of_disconnected hc] at hrun
    obtain ⟨hout, hafter⟩ := of_run hrun
    exact passed_of_idle hafter hout nofun nofun
  | some c =>
    obtain ⟨hconnection, hactive, herrors, last, hnew, hlast⟩ := Run.disconnect_of_connected hc
    obtain ⟨hout, hafter⟩ := of_run hrun
    obtain ⟨hasked, hcalls⟩ := calls_of_new ⟨.disconnect, s⟩ (by rw [hafter, hnew])
    refine ⟨hcalls, ?_, ?_, .closes ?_ ?_⟩
    · rw [hasked]
      intro k hk
      rcases List.mem_append.mp hk with hk | hk
      · unfold Run.undoCalls at hk
        split at hk
        · next ht =>
          refine permits_of_controls hc (.inr ⟨rfl, .inr (.inr ⟨.inr rfl, rfl, ht⟩)⟩)
            (Reply.controls_of_mem hk)
        · cases hk
      · cases hlast k hk
        trivial
    · intro e he
      rw [hout] at he
      exact herrors e (Result.map_eq_error.mp he)
    · rw [hafter, hconnection]
    · rw [hafter, hactive]

theorem passed_execute (hc : s.adapter.connection = some c) (sql : String) (params : Value) :
    Passed ⟨.execute sql params, s⟩ := by
  refine passed_of_frame (Run.execute_frame c sql s.adapter.dialect params) (f := some)
    ?_ ?_ nofun nofun ⟨nofun, nofun⟩
  · rw [AdapterCall.run, Run.map_apply, Run.execute_of_connected hc]
  rintro k ⟨bound, hk⟩
  cases k with
  | openCursor c' g =>
    have hsame : c' = c := hk
    rw [hsame]
    exact hc
  | execute n sql' params' =>
    obtain ⟨rfl, -⟩ : sql' = sql ∧ params' = bound := hk
    exact Or.inl ⟨params, rfl⟩
  | executeMany n sql' sets => cases hk
  | _ => trivial

theorem passed_executeMany (hc : s.adapter.connection = some c) (sql : String) (sets : Value) :
    Passed ⟨.executeMany sql sets, s⟩ := by
  refine passed_of_frame (Run.executeMany_frame c sql s.adapter.dialect sets) (f := some)
    ?_ ?_ nofun nofun ⟨nofun, nofun⟩
  · rw [AdapterCall.run, Run.map_apply, Run.executeMany_of_connected hc]
  rintro k ⟨bound, hk⟩
  cases k with
  | openCursor c' g =>
    have hsame : c' = c := hk
    rw [hsame]
    exact hc
  | executeMany n sql' sets' =>
    obtain ⟨rfl, -⟩ : sql' = sql ∧ sets' = bound := hk
    exact ⟨sets, rfl⟩
  | execute n sql' params => cases hk
  | _ => trivial

/-- A call that runs a control statement passes if the statement fits the state and the change is
accounted for. -/
theorem passed_of_controlCalls {statement : String} (hc : o.connection = some c)
    (hstatement : o.Accounts statement [])
    (hnew : o.after.calls =
      o.before.calls ++ o.before.reply.controlCalls c o.before.calls.length statement)
    (herrors : ∀ e, o.outcome = .error e → ¬ e.blamesState)
    (hchange : o.asked = o.before.reply.controlCalls c o.before.calls.length statement → o.Change) :
    o.Passed := by
  obtain ⟨hasked, hcalls⟩ := calls_of_new o hnew
  refine ⟨hcalls, ?_, herrors, hchange hasked⟩
  intro k hk
  rw [hasked] at hk
  exact permits_of_controls hc hstatement (Reply.controls_of_mem hk)

theorem sends_of_controlCalls {statement : String}
    (hasked : o.asked = o.before.reply.controlCalls c o.before.calls.length statement)
    (h : o.before.reply.raises = none) : o.Sends c statement := by
  obtain ⟨hopen, hexecute⟩ :=
    Reply.execute_mem_controlCalls h c o.before.calls.length statement
  rw [← hasked] at hopen hexecute
  exact ⟨_, hopen, hexecute⟩

theorem passed_beginTransaction (hc : s.adapter.connection = some c)
    (ht : s.adapter.inTransaction = false) : Passed ⟨.beginTransaction, s⟩ := by
  obtain ⟨x, t, hbegin, hnew, hgo⟩ :=
    Run.controlOn_then_setTransaction c "BEGIN" true .begun s
  rw [← Run.beginTransaction_of_idle hc ht] at hbegin
  have hrun : AdapterCall.beginTransaction.run s = (x.map fun _ => none, t) := by
    rw [AdapterCall.run, Run.map_apply, hbegin]
  obtain ⟨hout, hafter⟩ := of_run hrun
  refine passed_of_controlCalls hc (.inr ⟨rfl, .inl ⟨rfl, rfl, ht⟩⟩) (by rw [hafter, hnew]) ?_ ?_
  · intro e he
    rw [hout] at he
    rcases hgo with ⟨-, rfl, -⟩ | ⟨-, ⟨e', rfl, he'⟩, -⟩ <;> cases he
    exact he'
  · intro hasked
    rcases hgo with ⟨hraises, rfl, hadapter⟩ | ⟨-, ⟨e, rfl, -⟩, hadapter⟩
    · refine .begins c hc ?_ ?_ ⟨rfl, hout, sends_of_controlCalls hasked hraises⟩
      · rw [hafter, hadapter]
        exact hc
      · rw [hafter, hadapter]
    · refine change_of_failed ?_ ?_ ⟨nofun, nofun⟩
      · rw [hafter, hadapter]
      · rw [hout]
        nofun

theorem passed_commit (hc : s.adapter.connection = some c)
    (ht : s.adapter.inTransaction = true) : Passed ⟨.commit, s⟩ := by
  obtain ⟨x, t, hcommit, hnew, hgo⟩ :=
    Run.controlOn_then_setTransaction c "COMMIT" false .committed s
  rw [← Run.commit_of_active hc ht] at hcommit
  have hrun : AdapterCall.commit.run s = (x.map fun _ => none, t) := by
    rw [AdapterCall.run, Run.map_apply, hcommit]
  obtain ⟨hout, hafter⟩ := of_run hrun
  refine passed_of_controlCalls hc (.inr ⟨rfl, .inr (.inl ⟨rfl, rfl, ht⟩)⟩)
    (by rw [hafter, hnew]) ?_ ?_
  · intro e he
    rw [hout] at he
    rcases hgo with ⟨-, rfl, -⟩ | ⟨-, ⟨e', rfl, he'⟩, -⟩ <;> cases he
    exact he'
  · intro hasked
    rcases hgo with ⟨hraises, rfl, hadapter⟩ | ⟨-, ⟨e, rfl, -⟩, hadapter⟩
    · refine .commits c hc ?_ ?_ ⟨rfl, hout, sends_of_controlCalls hasked hraises⟩
      · rw [hafter, hadapter]
        exact hc
      · rw [hafter, hadapter]
    · refine change_of_failed ?_ ?_ ⟨nofun, nofun⟩
      · rw [hafter, hadapter]
      · rw [hout]
        nofun

theorem passed_rollback (hc : s.adapter.connection = some c)
    (ht : s.adapter.inTransaction = true) : Passed ⟨.rollback, s⟩ := by
  obtain ⟨x, t, hroll, hnew, hadapter, herrors⟩ := Run.rollback_of_active hc ht
  have hrun : AdapterCall.rollback.run s = (x.map fun _ => none, t) := by
    rw [AdapterCall.run, Run.map_apply, hroll]
  obtain ⟨hout, hafter⟩ := of_run hrun
  refine passed_of_controlCalls hc (.inr ⟨rfl, .inr (.inr ⟨.inl rfl, rfl, ht⟩)⟩)
    (by rw [hafter, hnew]) ?_ ?_
  · intro e he
    rw [hout] at he
    exact herrors e (Result.map_eq_error.mp he)
  · intro hasked
    refine .rollsBack c hc ?_ ?_ ⟨.inl rfl, ?_⟩
    · rw [hafter, hadapter]
      exact hc
    · rw [hafter, hadapter]
    · rw [hasked]
      exact Reply.openCursor_mem_controlCalls _ c _ "ROLLBACK"

/-! ## Every call -/

/-- A call that fits the state passes. -/
theorem passed_of_fits (hneeds : ¬ o.Unconnected) (hplace : ¬ o.Misplaced) : o.Passed := by
  obtain ⟨call, s⟩ := o
  have hconnected : call.needsConnection → ∃ c, s.adapter.connection = some c := by
    intro hcall
    exact Option.ne_none_iff_exists'.mp fun hc => hneeds ⟨hcall, hc⟩
  cases call with
  | connect => exact passed_connect s
  | disconnect => exact passed_disconnect s
  | execute sql params =>
    obtain ⟨c, hc⟩ := hconnected trivial
    exact passed_execute hc sql params
  | executeMany sql sets =>
    obtain ⟨c, hc⟩ := hconnected trivial
    exact passed_executeMany hc sql sets
  | beginTransaction =>
    obtain ⟨c, hc⟩ := hconnected trivial
    cases ht : s.adapter.inTransaction with
    | false => exact passed_beginTransaction hc ht
    | true => exact (hplace ⟨Option.ne_none_iff_exists'.mpr ⟨c, hc⟩, .inl ⟨rfl, ht⟩⟩).elim
  | commit =>
    obtain ⟨c, hc⟩ := hconnected trivial
    cases ht : s.adapter.inTransaction with
    | true => exact passed_commit hc ht
    | false => exact (hplace ⟨Option.ne_none_iff_exists'.mpr ⟨c, hc⟩, .inr ⟨.inl rfl, ht⟩⟩).elim
  | rollback =>
    obtain ⟨c, hc⟩ := hconnected trivial
    cases ht : s.adapter.inTransaction with
    | true => exact passed_rollback hc ht
    | false => exact (hplace ⟨Option.ne_none_iff_exists'.mpr ⟨c, hc⟩, .inr ⟨.inr rfl, ht⟩⟩).elim

end Occurrence

end RelMap
