import RelMap.Session.Operations

/-!
# Frames

What a program on a session leaves alone.  `Run.Frame asks r` says that the program `r` changes
nothing of the adapter but its counter of statements, asks the driver only what `asks` allows, and
never fails for the state of the adapter.  There is one rule for each combinator of programs, so the
frame of an operation is put together along its definition.

Operations of an adapter look at its state first.  For an adapter with a connection the rest of an
operation is a program on that connection (`control_of_connected`, `execute_of_connected`,
`executeMany_of_connected`), and the frames of these programs say how far they reach.
-/

namespace RelMap

/-- The adapter but for its counter of statements. -/
def Adapter.uncounted (a : Adapter) : Adapter := { a with statements := 0 }

/-- Does the error say that an operation does not fit the state of the adapter? -/
def Error.blamesState (e : Error) : Prop := e.kind = .notConnected ∨ e.kind = .transactionState

theorem Error.not_blamesState_raised (g : Signal) : ¬ (Error.raised g).blamesState := by
  cases g <;> simp [Error.blamesState, Error.kind]

theorem Error.not_blamesState_fault (f : Fault) : ¬ (Error.fault f).blamesState := by
  cases f <;> simp [Error.blamesState, Error.kind]

theorem Error.not_blamesState_executionFailed (m sql : String) (ps : Option (List Value)) :
    ¬ (Error.executionFailed m sql ps).blamesState := by simp [Error.blamesState, Error.kind]

/-- The reply that the next cursor follows. -/
def Session.reply (s : Session) : Reply := s.script.replies.headD {}

/-- The session once the next reply is taken. -/
def Session.afterReply (s : Session) : Session :=
  { s with script := { s.script with replies := s.script.replies.tail } }

/-- The session after a further call to the driver. -/
def Session.asking (s : Session) (c : Call) : Session := { s with calls := s.calls ++ [c] }

namespace Run

variable {α β : Type} {asks : Call → Prop}

/-! ## Programs on a session, step by step -/

section Bind

variable {s : Session}

theorem ofResult_bind_ok {x : Result α} {a : α} (h : x = .ok a) (f : α → Run β) :
    (ofResult x >>= f) s = f a s := by
  rw [h]
  rfl

theorem ofResult_bind_error {x : Result α} {e : Error} (h : x = .error e) (f : α → Run β) :
    (ofResult x >>= f) s = (.error e, s) := by
  rw [h]
  rfl

theorem bind_eq_ok {r : Run α} {f : α → Run β} {b : β} {t : Session}
    (h : (r >>= f) s = (.ok b, t)) : ∃ a u, r s = (.ok a, u) ∧ f a u = (.ok b, t) := by
  rw [bind_apply] at h
  rcases hr : r s with ⟨e | a, u⟩ <;> rw [hr] at h
  · cases h
  · exact ⟨a, u, rfl, h⟩

/-- Programs that begin alike and go on alike after each outcome are alike. -/
theorem bind_congr_apply {r r' : Run α} {f g : α → Run β} (hr : r s = r' s)
    (h : ∀ x t, r' s = (.ok x, t) → f x t = g x t) : (r >>= f) s = (r' >>= g) s := by
  rw [bind_apply, bind_apply, hr]
  rcases hs : r' s with ⟨e | x, t⟩
  · rfl
  · exact h x t hs

end Bind

theorem always_apply (r : Run α) (last : Run Unit) (s : Session) :
    r.always last s = match last (r s).2 with
      | (.ok (), t) => ((r s).1, t)
      | (.error e, t) => (.error e, t) := rfl

theorem always_session (r : Run α) (last : Run Unit) (s : Session) :
    (r.always last s).2 = (last (r s).2).2 := by
  rw [always_apply]
  rcases last (r s).2 with ⟨e | u, t⟩ <;> rfl

/-- The error of a program that another one follows in any case is the error of one of them. -/
theorem error_of_always {r : Run α} {last : Run Unit} {s : Session} {e : Error}
    (h : (r.always last s).1 = .error e) : (r s).1 = .error e ∨ (last (r s).2).1 = .error e := by
  rw [always_apply] at h
  rcases hl : last (r s).2 with ⟨e' | u, t⟩ <;> rw [hl] at h
  · cases h
    exact Or.inr rfl
  · exact Or.inl h

theorem onDriverError_apply (r : Run α) (answer : String → Run α) (s : Session) :
    r.onDriverError answer s = match (r s).1 with
      | .error (.raised (.driver m)) => answer m (r s).2
      | _ => r s := by
  unfold onDriverError
  rcases r s with ⟨x, t⟩
  split
  · next m t' h => cases h; rfl
  · next x' t' hne h =>
    cases h
    split
    · next m h => exact (hne m (by rw [← h])).elim
    · rfl

theorem onDriverError_of_driver {r : Run α} {s : Session} {m : String}
    (h : (r s).1 = .error (.raised (.driver m))) (answer : String → Run α) :
    r.onDriverError answer s = answer m (r s).2 := by
  rw [onDriverError_apply, h]

/-- What is no error of the driver is passed on. -/
theorem onDriverError_of_ne {r : Run α} {s : Session}
    (h : ∀ m, (r s).1 ≠ .error (.raised (.driver m))) (answer : String → Run α) :
    r.onDriverError answer s = r s := by
  rw [onDriverError_apply]
  split
  · next m hm => exact (h m hm).elim
  · rfl

theorem nextReply_apply (s : Session) : nextReply s = (.ok s.reply, s.afterReply) := by
  obtain ⟨adapter, ⟨openError, replies⟩, closing, calls, events⟩ := s
  cases replies <;> rfl

/-- A cursor is refused as the reply says, or granted under the number of the call that asks for
it. -/
theorem openCursor_apply (c : Nat) (s : Session) :
    openCursor c s = match s.reply.refused with
      | some g => (.error (.raised g), s.afterReply.asking (.openCursor c none))
      | none => (.ok (s.calls.length, s.reply),
          s.afterReply.asking (.openCursor c (some s.calls.length))) := by
  obtain ⟨adapter, ⟨openError, replies⟩, closing, calls, events⟩ := s
  cases replies with
  | nil => rfl
  | cons reply rest =>
    obtain ⟨refused, runError, fetchError, closeError, columns, rowCount, lastRowId, rows,
      closes⟩ := reply
    cases refused <;> rfl

theorem withCursor_apply (c : Nat) (body : Nat → Reply → Run α) (s : Session) :
    withCursor c body s = match s.reply.refused with
      | some g => (.error (.raised g), s.afterReply.asking (.openCursor c none))
      | none => (body s.calls.length s.reply).always (closeCursor s.calls.length s.reply)
          (s.afterReply.asking (.openCursor c (some s.calls.length))) := by
  unfold withCursor
  rw [bind_apply, openCursor_apply]
  cases s.reply.refused <;> rfl

/-! ## Frames -/

/-- The program keeps the adapter but for its counter, asks only what is allowed and never fails for
the state of the adapter. -/
structure Frame (asks : Call → Prop) (r : Run α) : Prop where
  adapter : ∀ s, (r s).2.adapter.uncounted = s.adapter.uncounted
  calls : ∀ s, ∃ new, (r s).2.calls = s.calls ++ new ∧ ∀ c ∈ new, asks c
  errors : ∀ s e, (r s).1 = .error e → ¬ e.blamesState

namespace Frame

variable {r : Run α}

theorem connection (h : Frame asks r) (s : Session) :
    (r s).2.adapter.connection = s.adapter.connection := by
  have hs := congrArg Adapter.connection (h.adapter s)
  exact hs

theorem inTransaction (h : Frame asks r) (s : Session) :
    (r s).2.adapter.inTransaction = s.adapter.inTransaction := by
  have hs := congrArg Adapter.inTransaction (h.adapter s)
  exact hs

theorem dialect (h : Frame asks r) (s : Session) :
    (r s).2.adapter.dialect = s.adapter.dialect := by
  have hs := congrArg Adapter.dialect (h.adapter s)
  exact hs

theorem mono {asks' : Call → Prop} (h : Frame asks r) (hasks : ∀ c, asks c → asks' c) :
    Frame asks' r where
  adapter := h.adapter
  calls s := by
    obtain ⟨new, hnew, hc⟩ := h.calls s
    exact ⟨new, hnew, fun c hmem => hasks c (hc c hmem)⟩
  errors := h.errors

/-- A program has a frame if on every session it runs as a program of that frame does. -/
theorem of_apply (h : ∀ s, ∃ r', Frame asks r' ∧ r s = r' s) : Frame asks r := by
  constructor
  · intro s
    obtain ⟨r', hr', hs⟩ := h s
    rw [hs]
    exact hr'.adapter s
  · intro s
    obtain ⟨r', hr', hs⟩ := h s
    rw [hs]
    exact hr'.calls s
  · intro s e he
    obtain ⟨r', hr', hs⟩ := h s
    rw [hs] at he
    exact hr'.errors s e he

/-! ### Programs that ask nothing -/

theorem ofResult {x : Result α} (h : ∀ e, x = .error e → ¬ e.blamesState) :
    Frame asks (Run.ofResult x) where
  adapter _ := rfl
  calls s := ⟨[], (List.append_nil _).symm, by simp⟩
  errors _ e he := h e he

theorem pure (x : α) : Frame asks (Pure.pure x : Run α) :=
  ofResult (x := .ok x) (by simp)

theorem fail {e : Error} (h : ¬ e.blamesState) : Frame asks (Run.fail e : Run α) :=
  ofResult (x := .error e) (by rintro _ ⟨⟩; exact h)

theorem report (e : Event) : Frame asks (Run.report e) where
  adapter _ := rfl
  calls s := ⟨[], (List.append_nil _).symm, by simp⟩
  errors _ _ he := by cases he

theorem countStatements (n : Nat) : Frame asks (Run.countStatements n) where
  adapter _ := rfl
  calls s := ⟨[], (List.append_nil _).symm, by simp⟩
  errors _ _ he := by cases he

theorem check (g : Option Signal) : Frame asks (Run.check g) := by
  cases g with
  | none => exact pure ()
  | some g => exact fail (Error.not_blamesState_raised g)

/-! ### Asking and combining -/

theorem call {c : Call} (h : asks c) : Frame asks (Run.call c) where
  adapter _ := rfl
  calls s := ⟨[c], rfl, by simpa using h⟩
  errors _ _ he := by cases he

theorem bind {f : α → Run β} (hr : Frame asks r) (hf : ∀ x, Frame asks (f x)) :
    Frame asks (r >>= f) := by
  have hcases : ∀ s, (∃ e t, r s = (.error e, t) ∧ (r >>= f) s = (.error e, t)) ∨
      ∃ x t, r s = (.ok x, t) ∧ (r >>= f) s = f x t := by
    intro s
    rw [bind_apply]
    rcases h : r s with ⟨e | x, t⟩
    · exact Or.inl ⟨e, t, rfl, rfl⟩
    · exact Or.inr ⟨x, t, rfl, rfl⟩
  constructor
  · intro s
    have hs := hr.adapter s
    rcases hcases s with ⟨e, t, h, h'⟩ | ⟨x, t, h, h'⟩ <;> rw [h] at hs <;> rw [h']
    · exact hs
    · exact ((hf x).adapter t).trans hs
  · intro s
    obtain ⟨new, hnew, hasks⟩ := hr.calls s
    rcases hcases s with ⟨e, t, h, h'⟩ | ⟨x, t, h, h'⟩ <;> rw [h] at hnew <;> rw [h']
    · exact ⟨new, hnew, hasks⟩
    · obtain ⟨more, hmore, hasks'⟩ := (hf x).calls t
      refine ⟨new ++ more, by rw [hmore, hnew, List.append_assoc], ?_⟩
      intro c hc
      exact (List.mem_append.mp hc).elim (hasks c) (hasks' c)
  · intro s e he
    rcases hcases s with ⟨e', t, h, h'⟩ | ⟨x, t, h, h'⟩ <;> rw [h'] at he
    · cases he
      exact hr.errors s e (by rw [h])
    · exact (hf x).errors t e he

theorem always {last : Run Unit} (hr : Frame asks r) (hl : Frame asks last) :
    Frame asks (r.always last) := by
  constructor
  · intro s
    rw [always_session]
    exact (hl.adapter _).trans (hr.adapter s)
  · intro s
    obtain ⟨new, hnew, hasks⟩ := hr.calls s
    obtain ⟨more, hmore, hasks'⟩ := hl.calls (r s).2
    refine ⟨new ++ more, by rw [always_session, hmore, hnew, List.append_assoc], ?_⟩
    intro c hc
    exact (List.mem_append.mp hc).elim (hasks c) (hasks' c)
  · intro s e he
    exact (error_of_always he).elim (hr.errors s e) (hl.errors _ e)

theorem onDriverError {answer : String → Run α} (hr : Frame asks r)
    (ha : ∀ m, Frame asks (answer m)) : Frame asks (r.onDriverError answer) := by
  have hcases : ∀ s, r.onDriverError answer s = r s ∨
      ∃ m, r.onDriverError answer s = answer m (r s).2 := by
    intro s
    rw [onDriverError_apply]
    split
    · next m _ => exact Or.inr ⟨m, rfl⟩
    · exact Or.inl rfl
  constructor
  · intro s
    rcases hcases s with h | ⟨m, h⟩ <;> rw [h]
    · exact hr.adapter s
    · exact ((ha m).adapter _).trans (hr.adapter s)
  · intro s
    obtain ⟨new, hnew, hasks⟩ := hr.calls s
    rcases hcases s with h | ⟨m, h⟩ <;> rw [h]
    · exact ⟨new, hnew, hasks⟩
    · obtain ⟨more, hmore, hasks'⟩ := (ha m).calls (r s).2
      refine ⟨new ++ more, by rw [hmore, hnew, List.append_assoc], ?_⟩
      intro c hc
      exact (List.mem_append.mp hc).elim (hasks c) (hasks' c)
  · intro s e he
    rcases hcases s with h | ⟨m, h⟩ <;> rw [h] at he
    · exact hr.errors s e he
    · exact (ha m).errors _ e he

/-! ### Cursors -/

theorem openCursor {connection : Nat} (h : ∀ granted, asks (.openCursor connection granted)) :
    Frame asks (Run.openCursor connection) where
  adapter s := by
    rw [openCursor_apply]
    cases s.reply.refused <;> rfl
  calls s := by
    rw [openCursor_apply]
    cases s.reply.refused with
    | none => exact ⟨[.openCursor connection (some s.calls.length)], rfl, by simpa using h _⟩
    | some g => exact ⟨[.openCursor connection none], rfl, by simpa using h _⟩
  errors s e he := by
    rw [openCursor_apply] at he
    cases hr : s.reply.refused with
    | none => simp [hr] at he
    | some g =>
      simp only [hr, Except.error.injEq] at he
      exact he ▸ Error.not_blamesState_raised g

theorem closeCursor {cursor : Nat} (h : asks (.closeCursor cursor)) (reply : Reply) :
    Frame asks (Run.closeCursor cursor reply) := by
  unfold Run.closeCursor
  split
  · exact (call h).bind fun _ => check reply.closeError
  · exact pure ()

theorem withCursor {connection : Nat} {body : Nat → Reply → Run α}
    (hopen : ∀ granted, asks (.openCursor connection granted))
    (hclose : ∀ cursor, asks (.closeCursor cursor))
    (hbody : ∀ cursor reply, Frame asks (body cursor reply)) :
    Frame asks (Run.withCursor connection body) := by
  refine (openCursor hopen).bind ?_
  rintro ⟨cursor, reply⟩
  exact (hbody cursor reply).always (closeCursor (hclose cursor) reply)

end Frame

end Run

end RelMap
