import RelMap.Proofs.Session.History

/-!
# How statements end

A statement of the caller, run once or once for each of several rows of parameters, either succeeds
and is counted, or fails and leaves the adapter as it was.  Parameters are bound before a cursor is
asked for.  From then on the reply of the driver decides: `Reply.raises` is what it raises itself,
where an error of closing the cursor hides an earlier one, and `Reply.result` is what is read off
it.  Errors of the driver become errors of the library, and all others pass through
(`Result.translate`).

`Run.Keeps f r` says that a program keeps what `f` tells of the adapter.  There is one rule for each
combinator of programs.  The main statement is `Execution.settles`.
-/

namespace RelMap

/-! ## What programs keep of the adapter -/

/-- The program keeps what `f` tells of the adapter, however it ends. -/
def Run.Keeps {α β : Type} (f : Adapter → β) (r : Run α) : Prop :=
  ∀ s, f (r s).2.adapter = f s.adapter

namespace Run.Keeps

variable {α γ β : Type} {f : Adapter → β} {r : Run α}

theorem ofResult (x : Result α) : Keeps f (Run.ofResult x) := fun _ => rfl

theorem pure (x : α) : Keeps f (Pure.pure x : Run α) := fun _ => rfl

theorem fail (e : Error) : Keeps f (Run.fail e : Run α) := fun _ => rfl

theorem adapter : Keeps f Run.adapter := fun _ => rfl

theorem report (ev : Event) : Keeps f (Run.report ev) := fun _ => rfl

theorem call (k : Call) : Keeps f (Run.call k) := fun _ => rfl

theorem check (g : Option Signal) : Keeps f (Run.check g) := by
  cases g with
  | none => exact pure ()
  | some g => exact fail (.raised g)

theorem modifyAdapter {g : Adapter → Adapter} (h : ∀ a, f (g a) = f a) :
    Keeps f (Run.modifyAdapter g) :=
  fun s => h s.adapter

theorem bind {k : α → Run γ} (hr : Keeps f r) (hk : ∀ x, Keeps f (k x)) : Keeps f (r >>= k) := by
  intro s
  have hs := hr s
  rw [bind_apply]
  rcases hrun : r s with ⟨e | x, t⟩ <;> rw [hrun] at hs
  · exact hs
  · exact (hk x t).trans hs

theorem always {last : Run Unit} (hr : Keeps f r) (hl : Keeps f last) :
    Keeps f (r.always last) := by
  intro s
  rw [always_session]
  exact (hl _).trans (hr s)

theorem onDriverError {answer : String → Run α} (hr : Keeps f r) (ha : ∀ m, Keeps f (answer m)) :
    Keeps f (r.onDriverError answer) := by
  intro s
  rw [onDriverError_apply]
  split
  · exact (ha _ _).trans (hr s)
  · exact hr s

theorem openConnection (b : Backend) : Keeps f (Run.openConnection b) := by
  intro s
  rw [openConnection_apply]
  cases b.opening with
  | error e => rfl
  | ok arguments => cases s.script.openError <;> rfl

theorem closeConnection (connection : Nat) : Keeps f (Run.closeConnection connection) := by
  intro s
  unfold Run.closeConnection
  split
  · exact (call _).bind (fun _ => check _) s
  · rfl

theorem openCursor (connection : Nat) : Keeps f (Run.openCursor connection) := by
  intro s
  rw [openCursor_apply]
  cases s.reply.refused <;> rfl

theorem closeCursor (cursor : Nat) (reply : Reply) : Keeps f (Run.closeCursor cursor reply) := by
  unfold Run.closeCursor
  split
  · exact (call _).bind fun _ => check _
  · exact pure ()

theorem withCursor (connection : Nat) {body : Nat → Reply → Run α}
    (hbody : ∀ cursor reply, Keeps f (body cursor reply)) :
    Keeps f (Run.withCursor connection body) := by
  refine (openCursor connection).bind ?_
  rintro ⟨cursor, reply⟩
  exact (hbody cursor reply).always (closeCursor cursor reply)

theorem readResult (cursor : Nat) (reply : Reply) : Keeps f (Run.readResult cursor reply) := by
  unfold Run.readResult
  split
  · exact pure _
  · exact (call _).bind fun _ => (check _).bind fun _ => (ofResult _).bind fun _ => pure _

theorem requireConnection : Keeps f Run.requireConnection := by
  refine adapter.bind fun a => ?_
  cases a.connection with
  | none => exact fail _
  | some c => exact pure c

theorem control (statement : String) : Keeps f (Run.control statement) := by
  refine requireConnection.bind fun c => ?_
  refine (withCursor c fun cursor reply => ?_).onDriverError fun m => ?_
  · exact (call _).bind fun _ => check _
  · exact (report _).bind fun _ => fail _

theorem map {g : α → γ} (hr : Keeps f r) : Keeps f (g <$> r) := hr.bind fun _ => pure _

end Run.Keeps

/-! ## What is not counted -/

namespace AdapterCall

/-- Is the call none of a statement of the caller? -/
def IsControl : AdapterCall → Prop
  | execute _ _ => False
  | executeMany _ _ => False
  | _ => True

open Run

/-- Only statements of the caller are counted. -/
theorem IsControl.keeps_statements {k : AdapterCall} (hk : k.IsControl) :
    Keeps Adapter.statements k.run := by
  have hset : ∀ active, Keeps Adapter.statements (setTransaction active) :=
    fun active => .modifyAdapter fun _ => rfl
  cases k with
  | execute sql params => exact hk.elim
  | executeMany sql sets => exact hk.elim
  | connect =>
    refine Keeps.map (Keeps.adapter.bind fun a => ?_)
    cases a.connection with
    | some c => exact .pure ()
    | none =>
      refine Keeps.bind ((Keeps.openConnection _).onDriverError fun m => ?_) fun c => ?_
      · exact (Keeps.report _).bind fun _ => .fail _
      · refine Keeps.bind (Keeps.modifyAdapter fun a => ?_) fun _ => .report _
        rfl
  | disconnect =>
    refine Keeps.map (Keeps.adapter.bind fun a => ?_)
    cases a.connection with
    | none => exact .pure ()
    | some c =>
      refine Keeps.always ?_ ?_
      · split
        · exact .control _
        · exact .pure ()
      · refine Keeps.bind (Keeps.modifyAdapter fun a => ?_) fun _ =>
          (Keeps.closeConnection c).bind fun _ => .report _
        rfl
  | beginTransaction =>
    refine Keeps.map (Keeps.requireConnection.bind fun c => Keeps.adapter.bind fun a => ?_)
    split
    · exact .fail _
    · exact (Keeps.control _).bind fun _ => (hset _).bind fun _ => .report _
  | commit =>
    refine Keeps.map (Keeps.requireConnection.bind fun c => Keeps.adapter.bind fun a => ?_)
    split
    · exact (Keeps.control _).bind fun _ => (hset _).bind fun _ => .report _
    · exact .fail _
  | rollback =>
    refine Keeps.map (Keeps.requireConnection.bind fun c => Keeps.adapter.bind fun a => ?_)
    split
    · exact ((Keeps.control _).always (hset _)).bind fun _ => .report _
    · exact .fail _

end AdapterCall

/-! ## What the reply decides -/

namespace Reply

/-- How a statement ends for a reply, if `x` is what is read off it: what the driver raises comes
before any error of reading. -/
def outcome {α : Type} (r : Reply) (x : Result α) : Result α :=
  match r.raises with
  | some g => .error (.raised g)
  | none => x

/-- What is read off a reply after one statement. -/
def result (r : Reply) : Result QueryResult :=
  match r.columns? with
  | none => .ok r.effect
  | some names =>
    match r.fetchError with
    | some g => .error (.raised g)
    | none => (r.rows.mapM (DriverRow.toRow names)).map fun rows =>
        { rows, rowCount := rows.length }

/-- What is read off a reply after a statement that was run for several rows of parameters. -/
def manyResult (r : Reply) : Result QueryResult :=
  r.rowCount.touchedByMany.map fun n => { rowCount := n }

theorem outcome_map {α β : Type} (r : Reply) (x : Result α) (f : α → β) :
    (r.outcome x).map f = r.outcome (x.map f) := by
  unfold outcome
  cases r.raises <;> rfl

end Reply

/-- The outcome with an error of the driver made into one of the library. -/
def Result.translate {α : Type} (sql : String) (params : Option (List Value)) :
    Result α → Result α
  | .error (.raised (.driver m)) => .error (.executionFailed m sql params)
  | x => x

theorem Result.translate_ne_driver {α : Type} (sql : String) (params : Option (List Value))
    (x : Result α) (m : String) : translate sql params x ≠ .error (.raised (.driver m)) := by
  unfold translate
  split
  · nofun
  · next hne => exact fun h => hne m h

theorem Result.translate_map {α β : Type} (sql : String) (params : Option (List Value))
    (x : Result α) (f : α → β) :
    (translate sql params x).map f = translate sql params (x.map f) := by
  rcases x with (e | y)
  · cases e with
    | raised g => cases g <;> rfl
    | _ => rfl
  · rfl

theorem Result.isOk_map {α β : Type} (x : Result α) (f : α → β) : (x.map f).isOk = x.isOk := by
  cases x <;> rfl

namespace Run

variable {α : Type} {s : Session}

theorem readResult_fst (cursor : Nat) (reply : Reply) (s : Session) :
    (readResult cursor reply s).1 = reply.result := by
  unfold readResult Reply.result
  cases reply.columns? with
  | none => rfl
  | some names =>
    dsimp only
    cases reply.fetchError with
    | some g => rfl
    | none =>
      have hrows : ∀ x : Result (List Row), ∀ t, ((ofResult x >>= fun rows =>
          pure { rows := rows, rowCount := rows.length } : Run QueryResult) t).1 =
            x.map fun rows => { rows := rows, rowCount := rows.length } := by
        rintro (e | rows) t <;> rfl
      exact hrows _ _

/-- On a new cursor a statement is run, and something is read off the reply. -/
theorem withCursor_fst (c : Nat) {k : Nat → Call} {rest : Nat → Reply → Run α} {x : Result α}
    (hrest : ∀ cursor t, (rest cursor s.reply t).1 = x) :
    (withCursor c (fun cursor reply => do
      call (k cursor)
      check reply.runError
      rest cursor reply) s).1 = s.reply.outcome x := by
  rw [withCursor_apply]
  unfold Reply.outcome Reply.raises
  cases s.reply.refused with
  | some g => rfl
  | none =>
    have hbody : ∀ cursor t, ((do
        call (k cursor)
        check s.reply.runError
        rest cursor s.reply : Run α) t).1 =
          match s.reply.runError with
          | some g => .error (.raised g)
          | none => x := by
      intro cursor t
      cases s.reply.runError with
      | some g => rfl
      | none => exact hrest cursor _
    dsimp only
    rw [always_apply, closeCursor_apply]
    cases s.reply.closes with
    | false => exact hbody _ _
    | true =>
      cases s.reply.closeError with
      | some g => rfl
      | none => exact hbody _ _

/-- The outcome of a program whose driver errors are reported and made into errors of the
library. -/
theorem translating_fst (r : Run α) (sql : String) (shown : Option (List Value)) :
    (r.onDriverError (fun message => do
      report (.executionFailed sql message)
      fail (.executionFailed message sql shown)) s).1 = Result.translate sql shown (r s).1 := by
  by_cases hdriver : ∃ m, (r s).1 = .error (.raised (.driver m))
  · obtain ⟨m, hm⟩ := hdriver
    rw [onDriverError_of_driver hm, hm]
    rfl
  · have hne : ∀ m, (r s).1 ≠ .error (.raised (.driver m)) := fun m hm => hdriver ⟨m, hm⟩
    rw [onDriverError_of_ne hne]
    unfold Result.translate
    split
    · next m hm => exact (hne m hm).elim
    · rfl

end Run

/-- The adapter after some more statements. -/
def Adapter.counting (a : Adapter) (count : Nat) : Adapter :=
  { a with statements := a.statements + count }

namespace Run

variable {α : Type} {s : Session}

/-- What a program is followed by that counts its statements if it succeeds. -/
theorem counted_apply {r : Run α} {x : Result α} {a : Adapter} (hx : (r s).1 = x)
    (ha : (r s).2.adapter = a) (f : α → QueryResult) (count : Nat) :
    ((do
      let y ← r
      countStatements count
      return f y : Run QueryResult) s).1 = x.map f ∧
    ((do
      let y ← r
      countStatements count
      return f y : Run QueryResult) s).2.adapter =
        if x.isOk then a.counting count else a := by
  subst hx ha
  rw [bind_apply]
  rcases r s with ⟨e | y, t⟩
  · exact ⟨rfl, rfl⟩
  · exact ⟨rfl, rfl⟩

/-- **A statement on a connection, exactly.**  It ends as the reply says, and it is counted if it
succeeds. -/
theorem statementOn_apply {c : Nat} {sql : String} {ev : Event} {ask : Nat → Call}
    {rest : Nat → Reply → Run α} {f : α → QueryResult} {count : Nat}
    {shown : Option (List Value)} {x : Result α}
    (hrest : ∀ cursor t, (rest cursor s.reply t).1 = x)
    (hkeeps : ∀ cursor reply, Keeps id (rest cursor reply)) :
    (statementOn c sql ev ask rest f count shown s).1 =
        Result.translate sql shown (s.reply.outcome (x.map f)) ∧
      (statementOn c sql ev ask rest f count shown s).2.adapter =
        if (Result.translate sql shown (s.reply.outcome (x.map f))).isOk then
          s.adapter.counting count
        else s.adapter := by
  -- the session once the statement is reported
  let t : Session := { s with events := s.events ++ [ev] }
  let r : Run α := withCursor c fun cursor reply => do
    call (ask cursor)
    check reply.runError
    rest cursor reply
  have hr : Keeps id r := .withCursor c fun cursor reply =>
    (Keeps.call _).bind fun _ => (Keeps.check _).bind fun _ => hkeeps cursor reply
  have hkept : Keeps id (r.onDriverError fun m => do
      report (.executionFailed sql m)
      fail (.executionFailed m sql shown)) :=
    hr.onDriverError fun m => (Keeps.report _).bind fun _ => .fail _
  have hfst := translating_fst (s := t) r sql shown
  rw [withCursor_fst c (s := t) hrest] at hfst
  rw [← Reply.outcome_map, ← Result.translate_map, Result.isOk_map]
  exact counted_apply hfst (hkept t) f count

end Run

/-! ## Statements of the caller -/

/-- The value is text or bytes. -/
def Value.IsTextual (v : Value) : Prop :=
  v.textOf?.isSome = true ∨ ∃ content, v = .bytes .bytes content

/-- The parameters of a statement are refused: they are text, bytes or a map, or they have no
elements at all, or one of these is no parameter. -/
def Value.IsRefused (v : Value) : Prop :=
  v.IsTextual ∨ (∃ entries, v = .map entries) ∨ (v.isNull = false ∧ v.items? = none) ∨
    ∃ items, v.items? = some items ∧ ∃ p ∈ items, ∃ e, p.toParameter = .error e

/-- Parameters are bound exactly if they are not refused. -/
theorem exists_bindParams_error_iff (d : Dialect) (v : Value) :
    (∃ e, bindParams d v = .error e) ↔ v.IsRefused := by
  unfold Value.IsRefused Value.IsTextual
  fun_cases bindParams d v with
  | case1 => simp [Value.textOf?, Value.isNull, Value.items?]
  | case2 entries => simp
  | case3 content => simp
  | case4 v hnull hmap hbytes htext => simp [htext]
  | case5 v hnull hmap hbytes htext vs hitems =>
    have herror : (∃ e, (toParameters vs).map (fun ps => ps.map d.adapt) = .error e) ↔
        ∃ p ∈ vs, ∃ e, p.toParameter = .error e := by
      constructor
      · rintro ⟨e, he⟩
        obtain ⟨p, hp, hpe⟩ := Result.exists_mem_of_mapM_eq_error (Result.map_eq_error.mp he)
        exact ⟨p, hp, e, hpe⟩
      · rintro ⟨p, hp, e, hpe⟩
        obtain ⟨e', he'⟩ := Result.mapM_eq_error_of_mem hp hpe
        exact ⟨e', Result.map_eq_error.mpr he'⟩
    have hbytes' : ¬ ∃ content, v = .bytes .bytes content := not_exists.mpr hbytes
    have hmap' : ¬ ∃ entries, v = .map entries := not_exists.mpr hmap
    simp [herror, htext, hbytes', hmap', hitems]
  | case6 v hnull hmap hbytes htext hitems =>
    have hset : v.isNull = false := by
      cases v with
      | null => exact (hnull rfl).elim
      | _ => rfl
    simp [hset, hitems]

/-- A statement of the caller with its parameters: it is run once, or once for each of several rows
of them. -/
inductive Execution where
  | one (params : Value)
  | many (sets : Value)

namespace Execution

def run (sql : String) : Execution → Run QueryResult
  | one params => Run.execute sql params
  | many sets => Run.executeMany sql sets

/-- The parameters are refused: those of the statement, or one row of them, where the rows are the
elements of a value that has any. -/
def IsRefused : Execution → Prop
  | one params => params.IsRefused
  | many sets => ∀ rows, sets.items? = some rows → ∃ row ∈ rows, row.IsRefused

/-- Parameters are bound for a dialect: how many statements are run with them, and what an error of
the driver shows of them. -/
inductive Binds (d : Dialect) : Execution → (count : Nat) → (shown : Option (List Value)) → Prop
  | one {params : Value} {ps : List Value} (h : bindParams d params = .ok ps) :
      Binds d (.one params) 1 (some ps)
  | many {sets : Value} {rows : List (List Value)} (h : bindSets d sets = .ok rows) :
      Binds d (.many sets) rows.length none

/-- What is read off the reply. -/
def result (r : Reply) : Execution → Result QueryResult
  | one _ => r.result
  | many _ => r.manyResult

theorem exists_bindSets_error_iff (d : Dialect) (sets : Value) :
    (∃ e, bindSets d sets = .error e) ↔ (many sets).IsRefused := by
  cases hitems : sets.items? with
  | none => simp [bindSets, IsRefused, hitems]
  | some rows =>
    simp only [bindSets, IsRefused, hitems, Option.some.injEq, forall_eq',
      ← exists_bindParams_error_iff d]
    constructor
    · rintro ⟨e, he⟩
      obtain ⟨row, hrow, hre⟩ := Result.exists_mem_of_mapM_eq_error he
      exact ⟨row, hrow, e, hre⟩
    · rintro ⟨row, hrow, e, hre⟩
      exact Result.mapM_eq_error_of_mem hrow hre

/-- Text or bytes in place of the rows are refused unless they are empty. -/
theorem isRefused_many {sets : Value} (h : sets.IsTextual) (hne : sets.items? ≠ some []) :
    (many sets).IsRefused := by
  intro rows hrows
  have hrefused : ∀ row ∈ rows, row.IsRefused := by
    rcases h with htext | ⟨content, rfl⟩
    · have hitems : sets.items? =
          sets.textOf?.map fun s => s.toList.map fun c => .text (String.singleton c) := by
        cases sets <;> first | rfl | cases htext
      obtain ⟨t, ht⟩ := Option.isSome_iff_exists.mp htext
      rw [hitems, ht] at hrows
      cases hrows
      exact List.forall_mem_map.mpr fun c _ => .inl (.inl rfl)
    · cases hrows
      exact List.forall_mem_map.mpr fun b _ => .inr (.inr (.inl ⟨rfl, rfl⟩))
  cases rows with
  | nil => exact (hne hrows).elim
  | cons row rows => exact ⟨row, List.mem_cons_self, hrefused row List.mem_cons_self⟩

variable {s : Session} {c : Nat}

/-- Parameters that are refused are refused before anything else happens. -/
theorem run_of_isRefused (hc : s.adapter.connection = some c) (sql : String) {x : Execution}
    (hx : x.IsRefused) : ∃ e, x.run sql s = (.error e, s) := by
  cases x with
  | one params =>
    obtain ⟨e, he⟩ := (exists_bindParams_error_iff s.adapter.dialect params).mpr hx
    refine ⟨e, ?_⟩
    rw [run, Run.execute_of_connected hc, Run.ofResult_bind_error he]
  | many sets =>
    obtain ⟨e, he⟩ := (exists_bindSets_error_iff s.adapter.dialect sets).mpr hx
    refine ⟨e, ?_⟩
    rw [run, Run.executeMany_of_connected hc, Run.ofResult_bind_error he]

/-- With parameters that are bound a statement ends as the reply of the driver says. -/
theorem run_of_binds (hc : s.adapter.connection = some c) (sql : String) {x : Execution}
    {count : Nat} {shown : Option (List Value)} (hx : x.Binds s.adapter.dialect count shown) :
    (x.run sql s).1 = Result.translate sql shown (s.reply.outcome (x.result s.reply)) ∧
      (x.run sql s).2.adapter =
        if (Result.translate sql shown (s.reply.outcome (x.result s.reply))).isOk then
          s.adapter.counting count
        else s.adapter := by
  cases hx with
  | @one params ps hbound =>
    rw [run, Run.execute_of_connected hc, Run.ofResult_bind_ok hbound, Run.executeOn_eq]
    have hresult : (one params).result s.reply = s.reply.result.map fun x => x := by
      rw [result]
      cases s.reply.result <;> rfl
    rw [hresult]
    exact Run.statementOn_apply (fun cursor t => Run.readResult_fst cursor s.reply t)
      fun _ _ => .readResult _ _
  | @many sets rows hbound =>
    rw [run, Run.executeMany_of_connected hc, Run.ofResult_bind_ok hbound, Run.executeManyOn_eq]
    exact Run.statementOn_apply (fun _ _ => rfl) fun _ _ => .ofResult _

theorem exists_binds (d : Dialect) {x : Execution} (hx : ¬ x.IsRefused) :
    ∃ count shown, x.Binds d count shown := by
  cases x with
  | one params =>
    cases hbound : bindParams d params with
    | error e => exact (hx ((exists_bindParams_error_iff d params).mp ⟨e, hbound⟩)).elim
    | ok ps => exact ⟨1, some ps, .one hbound⟩
  | many sets =>
    cases hbound : bindSets d sets with
    | error e => exact (hx ((exists_bindSets_error_iff d sets).mp ⟨e, hbound⟩)).elim
    | ok rows => exact ⟨rows.length, none, .many hbound⟩

/-- Other parameters are bound, and the statement ends as the reply of the driver says. -/
theorem run_of_not_isRefused (hc : s.adapter.connection = some c) (sql : String) {x : Execution}
    (hx : ¬ x.IsRefused) :
    ∃ count shown, x.Binds s.adapter.dialect count shown ∧
      (x.run sql s).1 = Result.translate sql shown (s.reply.outcome (x.result s.reply)) ∧
      (x.run sql s).2.adapter =
        if (Result.translate sql shown (s.reply.outcome (x.result s.reply))).isOk then
          s.adapter.counting count
        else s.adapter := by
  obtain ⟨count, shown, hbinds⟩ := exists_binds s.adapter.dialect hx
  exact ⟨count, shown, hbinds, run_of_binds hc sql hbinds⟩

/-- **How statements end.**  On a connected adapter, parameters that are refused are refused before
anything else happens; text and bytes in place of rows are among them unless they are empty.  With
other parameters a statement ends as the reply of the driver says, except that an error of the
driver becomes one of the library; if it fails the adapter is as before, and if it succeeds the
adapter has counted it, once for each row of parameters.  Nothing but statements of the caller is
counted. -/
theorem settles (hc : s.adapter.connection = some c) (sql : String) (x : Execution) :
    (x.IsRefused → ∃ e, x.run sql s = (.error e, s)) ∧
    (∀ sets, x = many sets → sets.IsTextual → sets.items? ≠ some [] → x.IsRefused) ∧
    (¬ x.IsRefused → ∃ count shown, x.Binds s.adapter.dialect count shown ∧
      (x.run sql s).1 = Result.translate sql shown (s.reply.outcome (x.result s.reply)) ∧
      (∀ m, (x.run sql s).1 ≠ .error (.raised (.driver m))) ∧
      (∀ e, (x.run sql s).1 = .error e → (x.run sql s).2.adapter = s.adapter) ∧
      ∀ r, (x.run sql s).1 = .ok r → (x.run sql s).2.adapter = s.adapter.counting count) ∧
    ∀ k : AdapterCall, k.IsControl →
      (k.run s).2.adapter.statements = s.adapter.statements := by
  refine ⟨run_of_isRefused hc sql, ?_, fun hx => ?_, fun k hk => hk.keeps_statements s⟩
  · rintro sets rfl htext hne
    exact isRefused_many htext hne
  · obtain ⟨count, shown, hbinds, houtcome, hadapter⟩ := run_of_not_isRefused hc sql hx
    refine ⟨count, shown, hbinds, houtcome, ?_, ?_, ?_⟩
    · intro m
      rw [houtcome]
      exact Result.translate_ne_driver sql shown _ m
    · intro e he
      rw [houtcome] at he
      rw [hadapter, he]
      rfl
    · intro r hr
      rw [houtcome] at hr
      rw [hadapter, hr]
      rfl

/-- A session whose connection follows one more reply. -/
def following (r : Reply) : Session where
  adapter := { dialect := .sqlite, backend := .generic, connection := some 0 }
  script := { replies := [r] }

/-- A statement that is interrupted, whose cursor then cannot be closed. -/
theorem settles_interrupted :
    let s := following
      { runError := some (.abort "interrupted"), closeError := some (.driver "gone") }
    ((one (.list [.bool true])).run "UPDATE users SET active = ?" s).1 =
        .error (.executionFailed "gone" "UPDATE users SET active = ?" (some [.int 1])) ∧
      ((one (.list [.bool true])).run "UPDATE users SET active = ?" s).2.adapter = s.adapter := by
  intro s
  have hx : ¬ (one (.list [.bool true])).IsRefused := by
    intro h
    obtain ⟨e, he⟩ := (exists_bindParams_error_iff .sqlite _).mpr h
    cases he
  obtain ⟨-, -, hends, -⟩ := settles (s := s) rfl "UPDATE users SET active = ?"
    (one (.list [.bool true]))
  obtain ⟨count, shown, hbinds, houtcome, -, hfailed, -⟩ := hends hx
  cases hbinds with
  | one h =>
    cases h
    exact ⟨houtcome, hfailed _ houtcome⟩

/-- An empty text in place of the rows stands for no rows at all. -/
theorem many_of_empty_text :
    (Value.text "").IsTextual ∧
      ((many (.text "")).run "DELETE FROM users" (following {})).1.isOk = true ∧
      ((many (.text "")).run "DELETE FROM users" (following {})).2.calls.length = 3 :=
  ⟨.inl rfl, by decide +kernel, by decide +kernel⟩

end Execution

end RelMap
