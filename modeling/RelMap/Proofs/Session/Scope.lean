import RelMap.Proofs.Session.StateMachine

/-!
# Transactions around a client

A transaction around a client is meant to be closed when it is left.  Leaving after a failure closes
it whatever the driver does; leaving after a success closes it unless the driver fails to commit.
That is the one way in which a transaction stays open (`transaction_leaks_iff`), and then no further
transaction can begin.
-/

namespace RelMap

/-! ## Connections and transactions -/

/-- A transaction is open on a connection only. -/
def Session.Coherent (s : Session) : Prop :=
  s.adapter.inTransaction = true → s.adapter.connection ≠ none

theorem Occurrence.coherent_after {o : Occurrence} (h : o.before.Coherent) : o.after.Coherent := by
  intro hactive
  rcases o.change.1 with ⟨hc, ht, -⟩ | ⟨-, -, ht, -⟩ | ⟨c, -, hc, -⟩ | ⟨c, -, hc, -⟩ |
    ⟨c, -, hc, -⟩ | ⟨-, ht⟩
  · rw [hc]
    rw [ht] at hactive
    exact h hactive
  · rw [ht] at hactive
    cases hactive
  · rw [hc]
    nofun
  · rw [hc]
    nofun
  · rw [hc]
    nofun
  · rw [ht] at hactive
    cases hactive

theorem Reaches.coherent {s t : Session} {h : List Occurrence} (hr : Reaches s h t)
    (hs : s.Coherent) : t.Coherent := by
  induction hr with
  | start => exact hs
  | driver script closing _ ih => exact ih
  | call c _ ih => exact Occurrence.coherent_after ih

/-! ## Leaving -/

/-- Leaving after a success closes the transaction unless the driver fails to commit. -/
theorem leaveTransaction_ok_active_iff {s : Session} (hs : s.Coherent) :
    (Run.leaveTransaction (.ok ()) s).2.adapter.inTransaction = true ↔
      s.adapter.inTransaction = true ∧ s.reply.raises ≠ none := by
  rw [Run.leaveTransaction_ok]
  cases ht : s.adapter.inTransaction with
  | true =>
    obtain ⟨c, hc⟩ := Option.ne_none_iff_exists'.mp (hs ht)
    obtain ⟨x, t, hcommit, -, hgo⟩ :=
      Run.controlOn_then_setTransaction c "COMMIT" false .committed s
    rw [Run.commit_of_active hc ht, hcommit]
    rcases hgo with ⟨hraises, -, hadapter⟩ | ⟨hraises, -, hadapter⟩
    · simp [hadapter, hraises]
    · simp [hadapter, hraises, ht]
  | false =>
    have hunchanged : (Run.commit s).2 = s := by
      cases hc : s.adapter.connection with
      | none => rw [Run.commit_of_disconnected hc]
      | some c => rw [Run.commit_of_idle hc ht]
    rw [hunchanged, ht]
    simp

/-- Leaving after a failure closes the transaction in any case. -/
theorem leaveTransaction_error_inactive {s : Session} (hs : s.Coherent) (e : Error) :
    (Run.leaveTransaction (.error e : Result Unit) s).2.adapter.inTransaction = false := by
  rw [Run.leaveTransaction_error]
  cases ht : s.adapter.inTransaction with
  | true =>
    obtain ⟨c, hc⟩ := Option.ne_none_iff_exists'.mp (hs ht)
    obtain ⟨x, t, hroll, -, hadapter, -⟩ := Run.rollback_of_active hc ht
    rw [hc, hroll]
    simp [hadapter]
  | false =>
    simp [ht]

/-! ## The one way in which a transaction stays open -/

/-- The transaction around the client begins, the client returns with a transaction open, and the
driver fails to commit it. -/
def Client.CommitFails (body : Client) (s : Session) : Prop :=
  ∃ u v, Run.beginTransaction s = (.ok (), u) ∧ body.run u = (.ok (), v) ∧
    v.adapter.inTransaction = true ∧ v.reply.raises ≠ none

variable {s : Session} {c : Nat}

theorem beginTransaction_ok_iff (hc : s.adapter.connection ≠ none) :
    (Run.beginTransaction s).1 = .ok () ↔
      s.adapter.inTransaction = false ∧ s.reply.raises = none := by
  obtain ⟨c, hc⟩ := Option.ne_none_iff_exists'.mp hc
  cases ht : s.adapter.inTransaction with
  | true => simp [Run.beginTransaction_of_active hc ht]
  | false =>
    obtain ⟨x, t, hbegin, -, hgo⟩ := Run.controlOn_then_setTransaction c "BEGIN" true .begun s
    rw [Run.beginTransaction_of_idle hc ht, hbegin]
    rcases hgo with ⟨hraises, rfl, -⟩ | ⟨hraises, ⟨e, rfl, -⟩, -⟩
    · simp [hraises]
    · simp [hraises]

theorem transaction_active_iff (hc : s.adapter.connection = some c)
    (ht : s.adapter.inTransaction = false) (body : Client) :
    (Run.transaction body.run s).2.adapter.inTransaction = true ↔ body.CommitFails s := by
  obtain ⟨x, u, hbegin, -, hgo⟩ := Run.controlOn_then_setTransaction c "BEGIN" true .begun s
  rw [← Run.beginTransaction_of_idle hc ht] at hbegin
  rw [Run.transaction_apply, hbegin]
  rcases hgo with ⟨-, rfl, hadapter⟩ | ⟨-, ⟨e, rfl, -⟩, hadapter⟩
  · have hu : u.Coherent := by
      intro _
      rw [hadapter, hc]
      nofun
    have hv := (body.reaches_history u).coherent hu
    dsimp only
    rcases hbody : body.run u with ⟨e | ⟨⟩, v⟩ <;> rw [hbody] at hv
    · rw [leaveTransaction_error_inactive hv e]
      constructor
      · nofun
      · rintro ⟨u', v', hu', hv', -⟩
        rw [hbegin] at hu'
        cases hu'
        rw [hbody] at hv'
        cases hv'
    · rw [leaveTransaction_ok_active_iff hv]
      constructor
      · rintro ⟨hactive, hraises⟩
        exact ⟨u, v, hbegin, hbody, hactive, hraises⟩
      · rintro ⟨u', v', hu', hv', hactive⟩
        rw [hbegin] at hu'
        cases hu'
        rw [hbody] at hv'
        cases hv'
        exact hactive
  · dsimp only
    rw [hadapter, ht]
    constructor
    · nofun
    · rintro ⟨u', v', hu', -⟩
      rw [hbegin] at hu'
      cases hu'

/-- **A transaction around a client stays open if and only if the driver fails to commit it.**  In
that case no further transaction begins; in all others one begins on an adapter that is still
connected if and only if the driver runs the statement that begins it. -/
theorem transaction_leaks_iff (hc : s.adapter.connection = some c)
    (ht : s.adapter.inTransaction = false) (body : Client) :
    ((Run.transaction body.run s).2.adapter.inTransaction = true ↔ body.CommitFails s) ∧
      ∀ script, (Run.transaction body.run s).2.adapter.connection ≠ none →
        ((Run.beginTransaction ((Run.transaction body.run s).2.withScript script)).1 = .ok () ↔
          ¬ body.CommitFails s ∧ (script.replies.headD {}).raises = none) := by
  have hactive := transaction_active_iff hc ht body
  refine ⟨hactive, fun script hconnected => ?_⟩
  have hnext := beginTransaction_ok_iff
    (s := (Run.transaction body.run s).2.withScript script) hconnected
  refine hnext.trans (and_congr ?_ Iff.rfl)
  show (Run.transaction body.run s).2.adapter.inTransaction = false ↔ _
  rw [← hactive, Bool.not_eq_true]

/-- A connected adapter whose driver fails to commit. -/
def Session.unlucky : Session where
  adapter := { dialect := .generic, backend := .generic, connection := some 0 }
  script := { replies := [{}, { runError := some (.driver "busy") }] }

theorem transaction_leaks_unlucky :
    Session.unlucky.adapter.connection = some 0 ∧
      Session.unlucky.adapter.inTransaction = false ∧
      (Client.done (.ok ())).CommitFails .unlucky := by
  have hactive := (transaction_leaks_iff (s := .unlucky) (c := 0) rfl rfl (.done (.ok ()))).1
  refine ⟨rfl, rfl, hactive.mp ?_⟩
  decide +kernel

/-- Not every transaction around a client is closed when it is left. -/
theorem transaction_not_always_closed :
    ¬ ∀ (s : Session) (c : Nat) (body : Client), s.adapter.connection = some c →
      s.adapter.inTransaction = false →
        (Run.transaction body.run s).2.adapter.inTransaction = false := by
  intro hall
  have hclosed := hall .unlucky 0 (.done (.ok ())) rfl rfl
  have hopen : (Run.transaction (Client.done (.ok ())).run .unlucky).2.adapter.inTransaction =
      true := by
    decide +kernel
  rw [hopen] at hclosed
  cases hclosed

end RelMap
