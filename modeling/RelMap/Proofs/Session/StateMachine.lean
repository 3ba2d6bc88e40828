import RelMap.Proofs.Session.History

/-!
# The state machine of an adapter

`Reaches s h t` says that the calls in `h`, made one after the other from `s` on, lead to `t`, while
the driver may change its mind at any time.  Whether a transaction is open is known from the history
alone (`Reaches.active_iff`): one was begun on the present connection, and since then none was
committed and no rollback was tried.

A `Client` decides on its next call from the outcomes of the earlier ones and may open transactions
around parts of itself.  Whatever it does is a history.
-/

namespace RelMap

/-! ## Every call -/

/-- What holds of every call, whatever the driver does. -/
structure Occurrence.Lawful (o : Occurrence) : Prop where
  unconnected : o.Raises .notConnected ↔ o.Unconnected
  misplaced : o.Raises .transactionState ↔ o.Misplaced
  refused : o.Raises .notConnected ∨ o.Raises .transactionState → o.after = o.before
  permitted : ∀ k ∈ o.asked, o.Permits k

namespace Occurrence

variable {o : Occurrence}

theorem not_misplaced_of_unconnected (h : o.Unconnected) : ¬ o.Misplaced :=
  fun h' => h'.1 h.2

theorem asked_of_unchanged (h : o.after = o.before) : o.asked = [] := by
  unfold asked Session.callsSince
  rw [h, List.drop_length]

theorem lawful (o : Occurrence) : o.Lawful := by
  by_cases hneeds : o.Unconnected
  · obtain ⟨hout, hafter⟩ := refused_of_unconnected hneeds
    have hkind : ∀ {k}, o.Raises k → k = .notConnected := by
      rintro k ⟨e, he, hk⟩
      rw [hout] at he
      cases he
      exact hk.symm
    refine ⟨⟨fun _ => hneeds, fun _ => ⟨_, hout, rfl⟩⟩, ⟨fun h => ?_, fun h => ?_⟩,
      fun _ => hafter, ?_⟩
    · cases hkind h
    · exact (not_misplaced_of_unconnected hneeds h).elim
    · rw [asked_of_unchanged hafter]
      nofun
  · by_cases hplace : o.Misplaced
    · obtain ⟨e, hout, hstate, hafter⟩ := refused_of_misplaced hplace
      have hkind : ∀ {k}, o.Raises k → k = .transactionState := by
        rintro k ⟨e', he', hk⟩
        rw [hout] at he'
        cases he'
        exact hk.symm.trans hstate
      refine ⟨⟨fun h => ?_, fun h => (hneeds h).elim⟩,
        ⟨fun _ => hplace, fun _ => ⟨e, hout, hstate⟩⟩, fun _ => hafter, ?_⟩
      · cases hkind h
      · rw [asked_of_unchanged hafter]
        nofun
    · have hpassed := passed_of_fits hneeds hplace
      have hraises : ¬ o.Raises .notConnected ∧ ¬ o.Raises .transactionState := by
        constructor
        · rintro ⟨e, he, hk⟩
          exact hpassed.errors e he (Or.inl hk)
        · rintro ⟨e, he, hk⟩
          exact hpassed.errors e he (Or.inr hk)
      refine ⟨⟨fun h => (hraises.1 h).elim, fun h => (hneeds h).elim⟩,
        ⟨fun h => (hraises.2 h).elim, fun h => (hplace h).elim⟩, ?_, hpassed.asked⟩
      rintro (h | h)
      · exact (hraises.1 h).elim
      · exact (hraises.2 h).elim

/-- A call that is refused keeps the state and asks the driver nothing. -/
theorem change_of_unchanged (hafter : o.after = o.before) (hout : o.outcome ≠ .ok none) :
    o.Change := by
  have hasked := asked_of_unchanged hafter
  refine .keeps (by rw [hafter]; rfl) (by rw [hafter]; rfl) ?_ ?_ ?_
  · exact fun c h => hout h.2.1
  · exact fun c h => hout h.2.1
  · rintro c ⟨-, granted, h⟩
    rw [hasked] at h
    cases h

/-- What a call does to the state, and what it adds to the calls of the driver. -/
theorem change (o : Occurrence) :
    o.Change ∧ o.after.calls = o.before.calls ++ o.asked := by
  have hrefused : o.after = o.before → o.outcome ≠ .ok none →
      o.Change ∧ o.after.calls = o.before.calls ++ o.asked := by
    intro hafter hout
    refine ⟨change_of_unchanged hafter hout, ?_⟩
    rw [asked_of_unchanged hafter, hafter, List.append_nil]
  by_cases hneeds : o.Unconnected
  · obtain ⟨hout, hafter⟩ := refused_of_unconnected hneeds
    exact hrefused hafter (by rw [hout]; nofun)
  · by_cases hplace : o.Misplaced
    · obtain ⟨e, hout, -, hafter⟩ := refused_of_misplaced hplace
      exact hrefused hafter (by rw [hout]; nofun)
    · have hpassed := passed_of_fits hneeds hplace
      exact ⟨hpassed.change, hpassed.calls⟩

theorem connection_of_openCursor {c : Nat} {granted : Option Nat}
    (h : .openCursor c granted ∈ o.asked) : o.connection = some c :=
  o.lawful.permitted _ h

theorem BeginsOn.connection_eq {c : Nat} (h : o.BeginsOn c) : o.connection = some c := by
  obtain ⟨-, -, cursor, hopen, -⟩ := h
  exact connection_of_openCursor hopen

end Occurrence

/-! ## Histories -/

/-- The calls lead from one session to another; in between, the driver may change its mind. -/
inductive Reaches (s : Session) : List Occurrence → Session → Prop
  | start : Reaches s [] s
  | driver {h : List Occurrence} {t : Session} (script : Script) (closing : Closing) :
      Reaches s h t → Reaches s h { t with script := script, closing := closing }
  | call {h : List Occurrence} {t : Session} (c : AdapterCall) :
      Reaches s h t → Reaches s (h ++ [⟨c, t⟩]) (Occurrence.after ⟨c, t⟩)

/-- A transaction was begun on the connection, and since then none was committed and no rollback was
tried on it. -/
def Begun (c : Nat) (h : List Occurrence) : Prop :=
  ∃ earlier o later, h = earlier ++ o :: later ∧ o.BeginsOn c ∧
    ∀ p ∈ later, ¬ p.CommitsOn c ∧ ¬ p.TriesRollbackOn c

theorem begun_concat {c : Nat} {h : List Occurrence} {o : Occurrence} :
    Begun c (h ++ [o]) ↔
      o.BeginsOn c ∨ Begun c h ∧ ¬ o.CommitsOn c ∧ ¬ o.TriesRollbackOn c := by
  constructor
  · rintro ⟨earlier, b, later, heq, hb, hlater⟩
    rcases List.eq_nil_or_concat later with rfl | ⟨later, p, rfl⟩
    · obtain ⟨-, hlast⟩ := List.append_inj' heq rfl
      cases hlast
      exact Or.inl hb
    · rw [List.concat_eq_append] at heq hlater
      rw [← List.cons_append, ← List.append_assoc] at heq
      obtain ⟨hh, hlast⟩ := List.append_inj' heq rfl
      cases hlast
      refine Or.inr ⟨⟨earlier, b, later, hh, hb, ?_⟩, hlater o (by simp)⟩
      exact fun p hp => hlater p (List.mem_append_left _ hp)
  · rintro (hb | ⟨⟨earlier, b, later, rfl, hb, hlater⟩, ho⟩)
    · exact ⟨h, o, [], rfl, hb, by simp⟩
    · refine ⟨earlier, b, later ++ [o], by simp, hb, ?_⟩
      intro p hp
      rcases List.mem_append.mp hp with hp | hp
      · exact hlater p hp
      · cases List.mem_singleton.mp hp
        exact ho

theorem Begun.exists_mem {c : Nat} {h : List Occurrence} (hb : Begun c h) :
    ∃ o ∈ h, o.BeginsOn c := by
  obtain ⟨earlier, o, later, rfl, ho, -⟩ := hb
  exact ⟨o, by simp, ho⟩

namespace Reaches

variable {s t u : Session} {h h' : List Occurrence}

theorem trans (hst : Reaches s h t) (htu : Reaches t h' u) : Reaches s (h ++ h') u := by
  induction htu with
  | start =>
    rw [List.append_nil]
    exact hst
  | driver script closing _ ih => exact .driver script closing ih
  | call c _ ih =>
    rw [← List.append_assoc]
    exact .call c ih

/-- What is known of the session at the end of a history: the numbers of connections are positions
of earlier calls, so that a new connection was never spoken of. -/
structure Invariant (s : Session) (h : List Occurrence) (t : Session) : Prop where
  active : t.adapter.inTransaction = true ↔ ∃ c, t.adapter.connection = some c ∧ Begun c h
  numbered : ∀ c, t.adapter.connection = some c → c < t.calls.length
  earlier : ∀ o ∈ h, ∀ c, o.connection = some c → c < t.calls.length
  recorded : t.calls = s.calls ++ h.flatMap Occurrence.asked

theorem invariant_start (hc : s.adapter.connection = none)
    (ht : s.adapter.inTransaction = false) : Invariant s [] s := by
  refine ⟨?_, ?_, by simp, (List.append_nil _).symm⟩
  · rw [ht, hc]
    constructor
    · nofun
    · rintro ⟨c, hc, -⟩
      cases hc
  · rw [hc]
    nofun

/-- A call moves the flag as the history says. -/
theorem invariant_active_call {o : Occurrence} (hi : Invariant s h o.before) :
    o.after.adapter.inTransaction = true ↔
      ∃ c, o.after.adapter.connection = some c ∧ Begun c (h ++ [o]) := by
  have hactive : o.active = true ↔ ∃ c, o.connection = some c ∧ Begun c h := hi.active
  have hclosed : ∀ {c}, o.after.adapter.connection = some c →
      o.after.adapter.inTransaction = false → ¬ Begun c (h ++ [o]) →
      (o.after.adapter.inTransaction = true ↔
        ∃ c, o.after.adapter.connection = some c ∧ Begun c (h ++ [o])) := by
    intro c hc ht hbegun
    rw [hc, ht]
    constructor
    · nofun
    · rintro ⟨c', hc', hbegun'⟩
      cases hc'
      exact (hbegun hbegun').elim
  rcases o.change.1 with ⟨hc, ht, hbegins, hcommits, htries⟩ | ⟨hc, hc', ht, hlt⟩ |
    ⟨c, hc, hc', ht, hb⟩ | ⟨c, hc, hc', ht, hb⟩ | ⟨c, hc, hc', ht, hb⟩ | ⟨hc', ht⟩
  · rw [hc, ht, hactive]
    constructor
    · rintro ⟨c, hc, hbegun⟩
      exact ⟨c, hc, begun_concat.mpr (Or.inr ⟨hbegun, hcommits c, htries c⟩)⟩
    · rintro ⟨c, hc, hbegun⟩
      rcases begun_concat.mp hbegun with h | ⟨h, -⟩
      · exact (hbegins c h).elim
      · exact ⟨c, hc, h⟩
  · -- nothing was ever begun on a connection that is new
    apply hclosed hc' ht
    intro hbegun
    obtain ⟨b, hb, hbegins⟩ := hbegun.exists_mem
    rcases List.mem_append.mp hb with hb | hb
    · exact absurd (hi.earlier b hb _ hbegins.connection_eq) (Nat.lt_irrefl _)
    · cases List.mem_singleton.mp hb
      rw [hbegins.connection_eq] at hc
      cases hc
  · rw [hc', ht]
    exact ⟨fun _ => ⟨c, rfl, begun_concat.mpr (Or.inl hb)⟩, fun _ => rfl⟩
  · apply hclosed hc' ht
    intro hbegun
    rcases begun_concat.mp hbegun with h | ⟨-, h, -⟩
    · cases h.1.symm.trans hb.1
    · exact h hb
  · apply hclosed hc' ht
    intro hbegun
    rcases begun_concat.mp hbegun with h | ⟨-, -, h⟩
    · rcases hb.1 with hb | hb <;> cases h.1.symm.trans hb
    · exact h hb
  · rw [hc', ht]
    constructor
    · nofun
    · rintro ⟨c, hc, -⟩
      cases hc

theorem invariant_call {o : Occurrence} (hi : Invariant s h o.before) :
    Invariant s (h ++ [o]) o.after := by
  obtain ⟨hchange, hcalls⟩ := o.change
  have hgrows : ∀ {n}, n < o.before.calls.length → n < o.after.calls.length := by
    intro n hn
    rw [hcalls, List.length_append]
    exact Nat.lt_add_right _ hn
  refine ⟨invariant_active_call hi, ?_, ?_, ?_⟩
  · intro c' hc'
    rcases hchange with ⟨hc, -⟩ | ⟨-, hc, -, hlt⟩ | ⟨c, hb, hc, -⟩ | ⟨c, hb, hc, -⟩ |
      ⟨c, hb, hc, -⟩ | ⟨hc, -⟩ <;> rw [hc] at hc'
    · exact hgrows (hi.numbered c' hc')
    · cases hc'
      exact hlt
    · cases hc'
      exact hgrows (hi.numbered _ hb)
    · cases hc'
      exact hgrows (hi.numbered _ hb)
    · cases hc'
      exact hgrows (hi.numbered _ hb)
    · cases hc'
  · intro p hp c hc
    rcases List.mem_append.mp hp with hp | hp
    · exact hgrows (hi.earlier p hp c hc)
    · cases List.mem_singleton.mp hp
      exact hgrows (hi.numbered c hc)
  · rw [hcalls, hi.recorded, List.flatMap_append, List.flatMap_singleton, List.append_assoc]

/-- The invariant holds along every history of an adapter that starts without a connection. -/
theorem invariant (hr : Reaches s h t) (hc : s.adapter.connection = none)
    (ht : s.adapter.inTransaction = false) : Invariant s h t := by
  induction hr with
  | start => exact invariant_start hc ht
  | driver script closing _ ih => exact ⟨ih.active, ih.numbered, ih.earlier, ih.recorded⟩
  | call c _ ih => exact invariant_call ih

end Reaches

/-! ## Clients -/

/-- A client of an adapter.  It calls operations and opens transactions around parts of itself, and
decides by the outcomes how it goes on; in the end it returns or fails.  Each call comes with the
script that the driver then follows. -/
inductive Client where
  | done (outcome : Result Unit)
  | call (script : Script) (c : AdapterCall) (next : Result (Option QueryResult) → Client)
  | scope (script : Script) (body : Client) (next : Result Unit → Client)

namespace Client

def run : Client → Run Unit
  | done outcome => .ofResult outcome
  | call script c next => do
    let x ← (c.run.under script).attempt
    (next x).run
  | scope script body next => do
    let x ← ((Run.transaction body.run).under script).attempt
    (next x).run

end Client

/-- What is called after the body of a transaction. -/
def leavingHistory (outcome : Result Unit) (t : Session) : List Occurrence :=
  match outcome with
  | .ok _ => [⟨.commit, t⟩]
  | .error _ =>
    if t.adapter.inTransaction && t.adapter.connection.isSome then [⟨.rollback, t⟩] else []

/-- What is called by a transaction around a body. -/
def scopeHistory (body : Run Unit) (history : Session → List Occurrence) (t : Session) :
    List Occurrence :=
  match Run.beginTransaction t with
  | (.error _, _) => [⟨.beginTransaction, t⟩]
  | (.ok _, u) => ⟨.beginTransaction, t⟩ :: (history u ++ leavingHistory (body u).1 (body u).2)

def Client.history : Client → Session → List Occurrence
  | done _, _ => []
  | call script c next, s =>
    ⟨c, s.withScript script⟩ ::
      (next (c.run.under script s).1).history (c.run.under script s).2
  | scope script body next, s =>
    scopeHistory body.run body.history (s.withScript script) ++
      (next ((Run.transaction body.run).under script s).1).history
        ((Run.transaction body.run).under script s).2

namespace Reaches

variable {s t : Session}

theorem withScript (s : Session) (script : Script) : Reaches s [] (s.withScript script) :=
  .driver script s.closing .start

/-- A history under a script of its own is a history. -/
theorem under {α : Type} {r : Run α} {script : Script} {h : List Occurrence}
    (hr : Reaches (s.withScript script) h (r (s.withScript script)).2) :
    Reaches s h (r.under script s).2 := by
  have hsession : (r.under script s).2 =
      { (r (s.withScript script)).2 with script := s.script } := rfl
  rw [hsession]
  exact .driver s.script _ ((withScript s script).trans hr)

theorem call_self (c : AdapterCall) (s : Session) : Reaches s [⟨c, s⟩] (c.run s).2 :=
  .call c .start

theorem leavingHistory (outcome : Result Unit) (t : Session) :
    Reaches t (leavingHistory outcome t) (Run.leaveTransaction outcome t).2 := by
  unfold RelMap.leavingHistory
  cases outcome with
  | ok x =>
    have hcommit := call_self .commit t
    rw [AdapterCall.run, Run.map_apply] at hcommit
    rw [Run.leaveTransaction_ok]
    exact hcommit
  | error e =>
    have hroll := call_self .rollback t
    rw [AdapterCall.run, Run.map_apply] at hroll
    rw [Run.leaveTransaction_error]
    dsimp only
    split
    · exact hroll
    · exact .start

theorem scopeHistory {body : Run Unit} {history : Session → List Occurrence}
    (hbody : ∀ u, Reaches u (history u) (body u).2) (t : Session) :
    Reaches t (scopeHistory body history t) (Run.transaction body t).2 := by
  have hbegin := call_self .beginTransaction t
  rw [AdapterCall.run, Run.map_apply] at hbegin
  unfold RelMap.scopeHistory
  rw [Run.transaction_apply]
  rcases hrun : Run.beginTransaction t with ⟨e | x, u⟩ <;> rw [hrun] at hbegin
  · exact hbegin
  · exact hbegin.trans ((hbody u).trans (leavingHistory (body u).1 (body u).2))

end Reaches

/-- What a client does is a history. -/
theorem Client.reaches_history (k : Client) (s : Session) :
    Reaches s (k.history s) (k.run s).2 := by
  induction k generalizing s with
  | done outcome => exact .start
  | call script c next ih =>
    have hcall := (Reaches.call_self c (s.withScript script)).under (s := s)
    exact hcall.trans (ih _ _)
  | scope script body next ihbody ihnext =>
    have hscope := (Reaches.scopeHistory ihbody (s.withScript script)).under (s := s)
    exact hscope.trans (ihnext _ _)

def Session.fresh (d : Dialect) (b : Backend) (script : Script) (closing : Closing) : Session where
  adapter := { dialect := d, backend := b }
  script := script
  closing := closing

/-- **The state machine of an adapter.**  Whatever a client does with a new adapter is a history,
and at the end of every history a transaction is open only on a connection, namely if and only if
one was begun on it and since then none was committed and no rollback was tried; everything that
the driver was asked was asked by the calls of the history, and each call was lawful. -/
theorem Client.follows_state_machine (d : Dialect) (b : Backend) (script : Script)
    (closing : Closing) (k : Client) :
    Reaches (.fresh d b script closing) (k.history (.fresh d b script closing))
        (k.run (.fresh d b script closing)).2 ∧
      ∀ h t, Reaches (.fresh d b script closing) h t →
        (t.adapter.inTransaction = true → t.adapter.connection ≠ none) ∧
        (t.adapter.inTransaction = true ↔ ∃ c, t.adapter.connection = some c ∧ Begun c h) ∧
        t.calls = h.flatMap Occurrence.asked ∧ ∀ o ∈ h, o.Lawful := by
  refine ⟨k.reaches_history _, fun h t hr => ?_⟩
  have hi := hr.invariant rfl rfl
  refine ⟨?_, hi.active, hi.recorded, fun o _ => o.lawful⟩
  intro ht
  obtain ⟨c, hc, -⟩ := hi.active.mp ht
  rw [hc]
  nofun

/-- A client that connects, runs a statement in a transaction and commits, where the driver fails to
commit. -/
def Client.unlucky : Client :=
  .call {} .connect fun _ =>
    .scope { replies := [{}, { runError := some (.driver "busy") }] }
      (.call {} (.execute "SELECT 1" .null) fun _ => .done (.ok ())) fun outcome => .done outcome

theorem Client.unlucky_begun :
    ∃ c, (unlucky.run (.fresh .sqlite .generic {} {})).2.adapter.connection = some c ∧
      Begun c (unlucky.history (.fresh .sqlite .generic {} {})) := by
  have hopen : (unlucky.run (.fresh .sqlite .generic {} {})).2.adapter.inTransaction = true := by
    decide +kernel
  obtain ⟨hr, hall⟩ := Client.follows_state_machine .sqlite .generic {} {} unlucky
  obtain ⟨-, hactive, -, -⟩ := hall _ _ hr
  exact hactive.mp hopen

end RelMap
