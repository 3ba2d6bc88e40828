import RelMap.Proofs.Session.Exchange

/-!
# Transitions

What each operation does to the state of an adapter, said once.  An operation that does not fit the
state fails and changes nothing; one that fits runs its control statement, and the flag follows the
reply of the driver.
-/

namespace RelMap

namespace Run

variable {s : Session} {c : Nat}

/-! ## Control statements that move the flag -/

/-- A control statement after which the flag is moved: it is moved exactly if the driver raises
nothing. -/
theorem controlOn_then_setTransaction (c : Nat) (statement : String) (active : Bool) (ev : Event)
    (s : Session) :
    ∃ x t, (do controlOn c statement; setTransaction active; report ev : Run Unit) s = (x, t) ∧
      t.calls = s.calls ++ s.reply.controlCalls c s.calls.length statement ∧
      (s.reply.raises = none ∧ x = .ok () ∧
          t.adapter = { s.adapter with inTransaction := active } ∨
        s.reply.raises ≠ none ∧ (∃ e, x = .error e ∧ ¬ e.blamesState) ∧ t.adapter = s.adapter) := by
  obtain ⟨houtcome, hadapter, hcalls⟩ := controlOn_apply c statement s
  have herrors := (controlOn_frame c statement).errors s
  have hok := controlOn_ok_iff c statement s
  rw [bind_apply]
  rcases hrun : controlOn c statement s with ⟨e | u, t⟩ <;>
    rw [hrun] at hadapter hcalls herrors hok
  · refine ⟨.error e, t, rfl, hcalls, Or.inr ⟨?_, ⟨e, rfl, herrors e rfl⟩, hadapter⟩⟩
    intro hraises
    cases hok.mpr hraises
  · refine ⟨.ok (), _, rfl, hcalls, Or.inl ⟨hok.mp rfl, rfl, ?_⟩⟩
    show { t.adapter with inTransaction := active } = _
    rw [hadapter]

theorem beginTransaction_of_idle (hc : s.adapter.connection = some c)
    (ht : s.adapter.inTransaction = false) :
    beginTransaction s =
      (do controlOn c "BEGIN"; setTransaction true; report .begun : Run Unit) s := by
  unfold beginTransaction
  rw [bind_of_connected hc, bind_apply]
  simp only [adapter, ht, Bool.false_eq_true, if_false]
  rw [bind_apply, control_of_connected hc, bind_apply]

theorem beginTransaction_of_active (hc : s.adapter.connection = some c)
    (ht : s.adapter.inTransaction = true) :
    beginTransaction s = (.error .transactionActive, s) := by
  unfold beginTransaction
  rw [bind_of_connected hc, bind_apply]
  simp only [adapter, ht, if_true, fail]

theorem commit_of_active (hc : s.adapter.connection = some c)
    (ht : s.adapter.inTransaction = true) :
    commit s = (do controlOn c "COMMIT"; setTransaction false; report .committed : Run Unit) s := by
  unfold commit
  rw [bind_of_connected hc, bind_apply]
  simp only [adapter, ht, if_true]
  rw [bind_apply, control_of_connected hc, bind_apply]

theorem commit_of_idle (hc : s.adapter.connection = some c)
    (ht : s.adapter.inTransaction = false) : commit s = (.error .nothingToCommit, s) := by
  unfold commit
  rw [bind_of_connected hc, bind_apply]
  simp only [adapter, ht, Bool.false_eq_true, if_false, fail]

/-- Rolling back asks the driver and, whatever it answers, closes the transaction. -/
theorem rollback_of_active (hc : s.adapter.connection = some c)
    (ht : s.adapter.inTransaction = true) :
    ∃ x t, rollback s = (x, t) ∧
      t.calls = s.calls ++ s.reply.controlCalls c s.calls.length "ROLLBACK" ∧
      t.adapter = { s.adapter with inTransaction := false } ∧
      ∀ e, x = .error e → ¬ e.blamesState := by
  obtain ⟨houtcome, hadapter, hcalls⟩ := controlOn_apply c "ROLLBACK" s
  have herrors := (controlOn_frame c "ROLLBACK").errors s
  unfold rollback
  rw [bind_of_connected hc, bind_apply]
  simp only [adapter, ht, if_true]
  rw [bind_apply, always_apply, control_of_connected hc]
  rcases hrun : controlOn c "ROLLBACK" s with ⟨e | u, t⟩ <;> rw [hrun] at hadapter hcalls herrors
  · refine ⟨.error e, _, rfl, hcalls, ?_, herrors⟩
    show { t.adapter with inTransaction := false } = _
    rw [hadapter]
  · refine ⟨.ok (), _, rfl, hcalls, ?_, ?_⟩
    · show { t.adapter with inTransaction := false } = _
      rw [hadapter]
    · intro e he
      cases he

/-- Rolling back returns only if the driver raises nothing. -/
theorem raises_of_rollback (hc : s.adapter.connection = some c)
    (ht : s.adapter.inTransaction = true) (h : (rollback s).1 = .ok ()) :
    s.reply.raises = none := by
  unfold rollback at h
  rw [bind_of_connected hc, bind_apply] at h
  simp only [adapter, ht, if_true] at h
  rw [bind_apply, always_apply, control_of_connected hc] at h
  rcases hrun : controlOn c "ROLLBACK" s with ⟨e | u, t⟩ <;> rw [hrun] at h
  · cases h
  · exact (controlOn_ok_iff c "ROLLBACK" s).mp (congrArg Prod.fst hrun)

theorem rollback_of_idle (hc : s.adapter.connection = some c)
    (ht : s.adapter.inTransaction = false) : rollback s = (.error .nothingToRollBack, s) := by
  unfold rollback
  rw [bind_of_connected hc, bind_apply]
  simp only [adapter, ht, Bool.false_eq_true, if_false, fail]

theorem beginTransaction_of_disconnected (hc : s.adapter.connection = none) :
    beginTransaction s = (.error .notConnected, s) :=
  bind_of_disconnected hc _

theorem commit_of_disconnected (hc : s.adapter.connection = none) :
    commit s = (.error .notConnected, s) :=
  bind_of_disconnected hc _

theorem rollback_of_disconnected (hc : s.adapter.connection = none) :
    rollback s = (.error .notConnected, s) :=
  bind_of_disconnected hc _

/-! ## Connecting and disconnecting -/

theorem connect_of_connected (hc : s.adapter.connection = some c) : connect s = (.ok (), s) := by
  unfold connect
  rw [bind_apply]
  simp only [adapter, hc, pure_apply]

theorem disconnect_of_disconnected (hc : s.adapter.connection = none) :
    disconnect s = (.ok (), s) := by
  unfold disconnect
  rw [bind_apply]
  simp only [adapter, hc, pure_apply]

theorem openConnection_apply (b : Backend) (s : Session) :
    openConnection b s = match b.opening with
      | .error e => (.error e, s)
      | .ok (positional, named) => match s.script.openError with
        | some g => (.error (.raised g), s.asking (.openConnection none positional named))
        | none => (.ok s.calls.length,
            s.asking (.openConnection (some s.calls.length) positional named)) := by
  unfold openConnection
  rcases b.opening with e | ⟨positional, named⟩
  · rfl
  · cases s.script.openError <;> rfl

theorem opening_eq_error {b : Backend} {e : Error} (h : b.opening = .error e) :
    e = .fault .wrongType := by
  unfold Backend.opening at h
  split at h
  · cases h
  all_goals
    split at h <;> cases h
    rfl

/-- Connecting a disconnected adapter: opening fails and leaves the adapter as it is, or there is a
connection under a new number, without a transaction. -/
theorem connect_of_disconnected (hc : s.adapter.connection = none) :
    (∃ e t, connect s = (.error e, t) ∧ ¬ e.blamesState ∧ t.adapter = s.adapter ∧
      ∃ new, t.calls = s.calls ++ new ∧ ∀ k ∈ new, ∃ g p n, k = .openConnection g p n) ∨
    ∃ t p n, connect s = (.ok (), t) ∧
      t.adapter = { s.adapter with connection := some s.calls.length, inTransaction := false } ∧
      t.calls = s.calls ++ [.openConnection (some s.calls.length) p n] := by
  unfold connect
  rw [bind_apply]
  simp only [adapter, hc]
  rw [bind_apply, onDriverError_apply, openConnection_apply]
  rcases hb : s.adapter.backend.opening with e | ⟨p, n⟩
  · obtain rfl := opening_eq_error hb
    exact Or.inl ⟨_, _, rfl, Error.not_blamesState_fault _, rfl, [], (List.append_nil _).symm,
      by simp⟩
  · cases s.script.openError with
    | none => exact Or.inr ⟨_, p, n, rfl, rfl, rfl⟩
    | some g =>
      left
      have hnew : ∀ k ∈ [Call.openConnection none p n], ∃ g p n, k = .openConnection g p n := by
        intro k hk
        exact ⟨none, p, n, List.mem_singleton.mp hk⟩
      rcases g with m | m | m
      · exact ⟨_, _, rfl, by simp [Error.blamesState, Error.kind], rfl, _, rfl, hnew⟩
      · exact ⟨_, _, rfl, Error.not_blamesState_raised _, rfl, _, rfl, hnew⟩
      · exact ⟨_, _, rfl, Error.not_blamesState_raised _, rfl, _, rfl, hnew⟩

theorem closeConnection_frame (c : Nat) :
    Frame (fun k => k = .closeConnection c) (closeConnection c) := by
  apply Frame.of_apply
  intro s
  unfold closeConnection
  split
  · refine ⟨do call (.closeConnection c); check s.closing.error, ?_, rfl⟩
    refine Frame.bind ?_ fun _ => Frame.check s.closing.error
    exact Frame.call rfl
  · exact ⟨pure (), Frame.pure (), rfl⟩

/-- Rolls the transaction of an adapter back, if there is one. -/
def undo (a : Adapter) : Run Unit := if a.inTransaction then control "ROLLBACK" else pure ()

/-- Closes a connection that the adapter has given up. -/
def release (connection : Nat) (a : Adapter) : Run Unit := do
  closeConnection connection
  report (.disconnected a.inTransaction (a.backend.describe a.dialect))

theorem release_frame (c : Nat) (a : Adapter) :
    Frame (fun k => k = .closeConnection c) (release c a) :=
  (closeConnection_frame c).bind fun _ => Frame.report _

/-- What a disconnection asks before it gives the connection up. -/
def undoCalls (s : Session) (c : Nat) : List Call :=
  if s.adapter.inTransaction then s.reply.controlCalls c s.calls.length "ROLLBACK" else []

theorem undo_apply (hc : s.adapter.connection = some c) :
    (undo s.adapter s).2.calls = s.calls ++ undoCalls s c ∧
      ∀ e, (undo s.adapter s).1 = .error e → ¬ e.blamesState := by
  unfold undo undoCalls
  split
  · rw [control_of_connected hc]
    exact ⟨(controlOn_apply c "ROLLBACK" s).2.2, (controlOn_frame c "ROLLBACK").errors s⟩
  · exact ⟨(List.append_nil _).symm, nofun⟩

theorem disconnect_eq_always (hc : s.adapter.connection = some c) :
    disconnect s = (undo s.adapter).always (do
      modifyAdapter fun a => { a with connection := none, inTransaction := false }
      release c s.adapter) s := by
  unfold disconnect
  rw [bind_apply]
  simp only [adapter, hc]
  rfl

/-- Disconnecting rolls an open transaction back and gives the connection up in any case. -/
theorem disconnect_of_connected (hc : s.adapter.connection = some c) :
    (disconnect s).2.adapter.connection = none ∧
      (disconnect s).2.adapter.inTransaction = false ∧
      (∀ e, (disconnect s).1 = .error e → ¬ e.blamesState) ∧
      ∃ last, (disconnect s).2.calls = s.calls ++ (undoCalls s c ++ last) ∧
        ∀ k ∈ last, k = .closeConnection c := by
  obtain ⟨hcalls, herrors⟩ := undo_apply hc
  rw [disconnect_eq_always hc]
  rcases hundo : undo s.adapter s with ⟨x, t⟩
  rw [hundo] at hcalls herrors
  have hframe := release_frame c s.adapter
  -- the session that the connection is closed on
  obtain ⟨u, hu⟩ : ∃ u : Session, u = { t with
    adapter := { t.adapter with connection := none, inTransaction := false } } := ⟨_, rfl⟩
  have hsession : ((undo s.adapter).always (do
      modifyAdapter fun a => { a with connection := none, inTransaction := false }
      release c s.adapter) s).2 = (release c s.adapter u).2 := by
    rw [always_session, hundo, hu]
    rfl
  rw [hsession]
  obtain ⟨new, hnew, hasked⟩ := hframe.calls u
  refine ⟨?_, ?_, ?_, new, ?_, hasked⟩
  · rw [hframe.connection, hu]
  · rw [hframe.inTransaction, hu]
  · intro e he
    rcases error_of_always he with h | h
    · rw [hundo] at h
      exact herrors e h
    · rw [hundo] at h
      refine hframe.errors u e ?_
      rw [hu]
      exact h
  · rw [hnew, hu, hcalls, List.append_assoc]

/-! ## Transactions around a program -/

theorem leaveTransaction_ok {α : Type} (x : α) (s : Session) :
    leaveTransaction (.ok x) s = ((commit s).1.map fun _ => x, (commit s).2) := by
  have hleave : leaveTransaction (.ok x) s = (commit >>= fun _ => pure x : Run α) s := rfl
  rw [hleave, bind_apply]
  rcases commit s with ⟨e | u, t⟩ <;> rfl

/-- After an error an open transaction is rolled back, and the error is passed on unless rolling
back fails as well. -/
theorem leaveTransaction_error {α : Type} (e : Error) (s : Session) :
    (leaveTransaction (.error e) s : Result α × Session) =
      if s.adapter.inTransaction && s.adapter.connection.isSome then
        ((rollback s).1.bind fun _ => .error e, (rollback s).2)
      else (.error e, s) := by
  have hleave : (leaveTransaction (.error e) s : Result α × Session) =
      (if s.adapter.inTransaction && s.adapter.connection.isSome then rollback >>= fun _ => fail e
        else fail e : Run α) s := by
    rfl
  rw [hleave]
  split
  · rw [bind_apply]
    rcases rollback s with ⟨e' | u, t⟩ <;> rfl
  · rfl

theorem transaction_apply {α : Type} (body : Run α) (s : Session) :
    transaction body s = match beginTransaction s with
      | (.ok _, u) => leaveTransaction (body u).1 (body u).2
      | (.error e, u) => (.error e, u) := by
  unfold transaction
  rw [bind_apply]
  rcases beginTransaction s with ⟨e | x, u⟩ <;> rfl

end Run

end RelMap
