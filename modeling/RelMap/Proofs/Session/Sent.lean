import RelMap.Proofs.Session.Exchange
import RelMap.Query.Statement

/-!
# Statements that are sent

A driver runs the statements that it is asked to execute; cursors, rows and connections are asked
for around them.  `Session.sent` picks the statements out of the calls.  An operation that executes
a statement sends it once if there is a connection and the driver grants a cursor, and sends nothing
otherwise (`execute_sent`).
-/

namespace RelMap

/-- The statement that a call has the driver run, with the rows of parameters for it. -/
def Call.statement? : Call → Option (String × List (List Value))
  | execute _ sql params => some (sql, [params])
  | executeMany _ sql sets => some (sql, sets)
  | _ => none

/-- The statements that the driver was asked to run. -/
def Session.sent (s : Session) : List (String × List (List Value)) :=
  s.calls.filterMap Call.statement?

/-- Does a statement get through to the driver? -/
def Session.grants (s : Session) : Bool := s.adapter.connection.isSome && s.reply.refused.isNone

theorem Session.sent_asking (s : Session) (c : Call) :
    (s.asking c).sent = s.sent ++ c.statement?.toList := by
  unfold sent asking
  rw [List.filterMap_append]
  cases h : c.statement? <;> simp [h]

/-- The call is no statement. -/
def Call.IsSilent (c : Call) : Prop := c.statement? = none

/-- Asking for a cursor is no statement. -/
theorem Session.sent_openCursor (s : Session) (c : Nat) (granted : Option Nat) :
    (s.afterReply.asking (.openCursor c granted)).sent = s.sent := by
  rw [sent_asking]
  exact List.append_nil _

namespace Run

variable {α : Type}

/-- A program that asks for no statement sends none. -/
theorem Frame.sent {r : Run α} (h : Frame Call.IsSilent r) (s : Session) :
    (r s).2.sent = s.sent := by
  obtain ⟨new, hnew, hsilent⟩ := h.calls s
  rw [Session.sent, hnew, List.filterMap_append, List.filterMap_eq_nil_iff.mpr hsilent,
    List.append_nil]
  rfl

/-- On a cursor that is granted, a call and a program without statements send what the call does. -/
theorem withCursor_sent (c : Nat) {k : Nat → Call} {rest : Nat → Reply → Run α}
    (hrest : ∀ cursor reply, Frame Call.IsSilent (rest cursor reply)) (s : Session) :
    (withCursor c (fun cursor reply => do
      call (k cursor)
      rest cursor reply) s).2.sent =
      s.sent ++ if s.reply.refused.isNone then (k s.calls.length).statement?.toList else [] := by
  rw [withCursor_apply]
  cases s.reply.refused with
  | some g => exact (s.sent_openCursor c none).trans (List.append_nil _).symm
  | none =>
    have hsilent : (Call.closeCursor s.calls.length).IsSilent := rfl
    have hsent := ((hrest s.calls.length s.reply).always (Frame.closeCursor hsilent s.reply)).sent
      ((s.afterReply.asking (.openCursor c (some s.calls.length))).asking (k s.calls.length))
    rw [Session.sent_asking, Session.sent_openCursor] at hsent
    exact hsent

theorem onDriverError_sent {r : Run α} {answer : String → Run α}
    (hanswer : ∀ m, Frame Call.IsSilent (answer m)) (s : Session) :
    (r.onDriverError answer s).2.sent = (r s).2.sent := by
  rw [onDriverError_apply]
  split
  · next m _ => exact (hanswer m).sent _
  · rfl

/-- What follows without statements sends nothing more. -/
theorem bind_sent {β : Type} {r : Run α} {f : α → Run β}
    (hf : ∀ x, Frame Call.IsSilent (f x)) (s : Session) :
    ((r >>= f) s).2.sent = (r s).2.sent := by
  rw [bind_apply]
  rcases r s with ⟨e | x, t⟩
  · rfl
  · exact (hf x).sent t

/-- A statement on a connection sends what it asks for, if it is granted a cursor. -/
theorem statementOn_sent {c : Nat} {sql : String} {ev : Event} {ask : Nat → Call}
    {rest : Nat → Reply → Run α} {f : α → QueryResult} {count : Nat} {shown : Option (List Value)}
    (hrest : ∀ cursor reply, Frame Call.IsSilent (rest cursor reply)) (s : Session) :
    (statementOn c sql ev ask rest f count shown s).2.sent =
      s.sent ++ if s.reply.refused.isNone then (ask s.calls.length).statement?.toList else [] := by
  refine (bind_sent (fun _ => (Frame.countStatements count).bind fun _ => Frame.pure _)
    { s with events := s.events ++ [ev] }).trans ?_
  refine (onDriverError_sent (fun m => (Frame.report _).bind fun _ =>
    Frame.fail (Error.not_blamesState_executionFailed m sql shown)) _).trans ?_
  exact withCursor_sent c (fun cursor reply => (Frame.check _).bind fun _ => hrest cursor reply) _

theorem executeOn_sent (c : Nat) (sql : String) (bound : List Value) (s : Session) :
    (executeOn c sql bound s).2.sent =
      s.sent ++ if s.reply.refused.isNone then [(sql, [bound])] else [] := by
  have hfetch : ∀ cursor, (Call.fetch cursor).IsSilent := fun _ => rfl
  rw [executeOn_eq]
  exact statementOn_sent (fun cursor reply => readResult_frame (hfetch cursor) reply) s

theorem executeManyOn_sent (c : Nat) (sql : String) (bound : List (List Value)) (s : Session) :
    (executeManyOn c sql bound s).2.sent =
      s.sent ++ if s.reply.refused.isNone then [(sql, bound)] else [] := by
  rw [executeManyOn_eq]
  exact statementOn_sent (fun _ _ => Frame.ofResult fun _ => not_blamesState_of_touchedByMany) s

/-- A statement for which no cursor is granted fails. -/
theorem executeOn_refused {c : Nat} {sql : String} {bound : List Value} {s : Session} {g : Signal}
    (h : s.reply.refused = some g) : ∃ e t, executeOn c sql bound s = (.error e, t) := by
  have hreply : Session.reply { s with events := s.events ++ [.executing sql bound.length] } =
      s.reply := rfl
  unfold executeOn
  rw [bind_apply]
  simp only [report]
  rw [bind_apply, onDriverError_apply, withCursor_apply, hreply, h]
  cases g with
  | driver m => exact ⟨_, _, rfl⟩
  | _ => exact ⟨_, _, rfl⟩

/-- Values that are parameters in some form are bound in that form, as the dialect has them. -/
theorem bindParams_eq_ok (d : Dialect) {α : Type} {xs : List α} {value param : α → Value}
    (h : ∀ x ∈ xs, (value x).toParameter = .ok (param x)) :
    bindParams d (.list (xs.map value)) = .ok (xs.map fun x => d.adapt (param x)) := by
  have hbound : toParameters (xs.map value) = .ok (xs.map param) := by
    rw [toParameters, List.mapM_map]
    exact Result.mapM_eq_ok_map h
  change (toParameters (xs.map value)).map _ = _
  rw [hbound]
  exact congrArg Except.ok List.map_map

theorem bindParams_parameters (d : Dialect) {ps : List Value}
    (hps : ∀ p ∈ ps, p.isParameter = true) : bindParams d (.list ps) = .ok (ps.map d.adapt) := by
  have hbound : bindParams d (.list (ps.map id)) = .ok (ps.map fun p => d.adapt (id p)) :=
    bindParams_eq_ok d fun p hp => toParameter_of_isParameter (hps p hp)
  rw [List.map_id] at hbound
  exact hbound

/-- **A statement is sent once** if it gets through and not at all otherwise; it returns only if it
got through. -/
theorem execute_sent (sql : String) {ps : List Value} (hps : ∀ p ∈ ps, p.isParameter = true)
    (s : Session) :
    (execute sql (.list ps) s).2.sent =
        s.sent ++ (if s.grants then [(sql, [ps.map s.adapter.dialect.adapt])] else []) ∧
      ∀ r t, execute sql (.list ps) s = (.ok r, t) → s.grants = true := by
  unfold Session.grants
  cases hc : s.adapter.connection with
  | none =>
    have hfailed : execute sql (.list ps) s = (.error .notConnected, s) :=
      bind_of_disconnected hc _
    rw [hfailed]
    exact ⟨(List.append_nil _).symm, fun r t h => by cases h⟩
  | some c =>
    have hrun : execute sql (.list ps) s =
        executeOn c sql (ps.map s.adapter.dialect.adapt) s := by
      rw [execute_of_connected hc, bindParams_parameters _ hps]
      rfl
    rw [hrun]
    refine ⟨executeOn_sent c sql _ s, fun r t h => ?_⟩
    cases hg : s.reply.refused with
    | none => rfl
    | some g =>
      obtain ⟨e, t', herror⟩ : ∃ e t', executeOn c sql (ps.map s.adapter.dialect.adapt) s =
          (.error e, t') := executeOn_refused hg
      rw [herror] at h
      cases h

end Run

def Statement.run (st : Statement) : Run QueryResult := Run.execute st.sql (.list st.params)

/-- A statement leaves the dialect of the adapter as it is. -/
theorem Statement.dialect_of_run {st : Statement} {s t : Session} {r : QueryResult}
    (h : st.run s = (.ok r, t)) : t.adapter.dialect = s.adapter.dialect := by
  have hkept := Run.execute_dialect st.sql (.list st.params) s
  rw [← hkept]
  exact congrArg (fun p => p.2.adapter.dialect) h.symm

/-- A statement as a driver is asked to run it in a dialect. -/
def Statement.sentIn (st : Statement) (d : Dialect) : String × List (List Value) :=
  (st.sql, [st.params.map d.adapt])

/-- Between the sessions statements of a plan were sent, from the first on and no others; the first
one was sent if it got through. -/
def Session.Sends (s t : Session) (plan : List (String × List (List Value))) : Prop :=
  ∃ new, t.sent = s.sent ++ new ∧ new <+: plan ∧ (s.grants = true → new ≠ [])

/-- A statement is sent before what follows it, which follows only if the statement returns. -/
theorem Statement.run_sends {α : Type} {st : Statement} {s : Session} {f : QueryResult → Run α}
    {plan : List (String × List (List Value))} (hst : ∀ p ∈ st.params, p.isParameter = true)
    (hf : ∀ r t, st.run s = (.ok r, t) →
      ∃ new, (f r t).2.sent = t.sent ++ new ∧ new <+: plan) :
    s.Sends ((st.run >>= f) s).2 (st.sentIn s.adapter.dialect :: plan) := by
  obtain ⟨hsent, hgranted⟩ := Run.execute_sent st.sql hst s
  rw [Run.bind_apply]
  rcases hr : st.run s with ⟨err | r, t⟩
  · have hrun : Run.execute st.sql (.list st.params) s = (.error err, t) := hr
    rw [hrun] at hsent
    refine ⟨_, hsent, ?_, ?_⟩
    · split
      · exact List.prefix_append _ plan
      · exact List.nil_prefix
    · intro hg
      rw [if_pos hg]
      exact List.cons_ne_nil _ _
  · have hrun : Run.execute st.sql (.list st.params) s = (.ok r, t) := hr
    have hg := hgranted r t hrun
    rw [hrun, if_pos hg] at hsent
    obtain ⟨new, hnew, hprefix⟩ := hf r t hr
    refine ⟨st.sentIn s.adapter.dialect :: new, ?_, ?_, fun _ => List.cons_ne_nil _ _⟩
    · rw [hnew, hsent, List.append_assoc]
      rfl
    · exact List.cons_prefix_cons.mpr ⟨rfl, hprefix⟩

end RelMap
