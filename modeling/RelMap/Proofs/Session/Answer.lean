import RelMap.Proofs.Session.RowCount

/-!
# What replies tell

A statement that is run on a connection follows one reply of the driver.  `Reply.Tells` says what the
reply tells of it: where there is a result its rows, and otherwise how many rows were touched and
which number the last row has.  A statement whose parameters are bound returns what its reply tells,
and fails if that is nothing (`Statement.run_cases`); the statement behind it follows the next reply.

`Run.FallsBack` says how a statement goes that another one follows where it finds nothing.
-/

namespace RelMap

/-- What a row of a driver tells under the names of the columns: maps keep their own keys. -/
inductive DriverRow.Tells (names : List String) : DriverRow → Row → Prop
  | keyed (row : Row) : Tells names (.keyed row) row
  | map (row : Row) : Tells names (.value (.map row)) row
  | tuple (values : List Value) : Tells names (.value (.tuple values)) (.ofColumns names values)
  | list (values : List Value) : Tells names (.value (.list values)) (.ofColumns names values)

theorem DriverRow.tells_iff {names : List String} {r : DriverRow} {row : Row} :
    r.Tells names row ↔ r.toRow names = .ok row := by
  constructor
  · intro h
    cases h <;> rfl
  · intro h
    unfold toRow at h
    split at h
    · cases h
      exact .map _
    · cases h
      exact .tuple _
    · cases h
      exact .list _
    · cases h
    · cases h
      exact .keyed _

namespace Reply

/-- The number of a row that the reply reports; a statement with a result reports none. -/
def rowNumber (r : Reply) : Value :=
  match r.columns? with
  | none => if r.lastRowId.truthy then r.lastRowId else .null
  | some _ => .null

/-- What the reply tells of a statement: nothing if the driver raises something itself, or if the
rows cannot be fetched or read.  Without columns there is no result. -/
inductive Tells (r : Reply) : QueryResult → Prop
  | effect {n : Nat} (hraises : r.raises = none) (hcolumns : r.columns.getD [] = [])
      (hcount : r.rowCount.ComesTo n) :
      Tells r { rowCount := n, lastRowId := if r.lastRowId.truthy then r.lastRowId else .null }
  | result {names : List String} {rows : List Row} (hraises : r.raises = none)
      (hcolumns : r.columns = some names) (hnames : names ≠ []) (hfetch : r.fetchError = none)
      (hrows : List.Forall₂ (DriverRow.Tells names) r.rows rows) :
      Tells r { rows, rowCount := rows.length }

theorem columns?_eq_none_iff {r : Reply} : r.columns? = none ↔ r.columns.getD [] = [] := by
  unfold columns?
  rcases r.columns with _ | _ | ⟨n, ns⟩ <;> simp

theorem columns?_eq_some_iff {r : Reply} {names : List String} :
    r.columns? = some names ↔ r.columns = some names ∧ names ≠ [] := by
  unfold columns?
  rcases r.columns with _ | _ | ⟨n, ns⟩ <;> simp
  rintro rfl
  exact List.cons_ne_nil n ns

/-- What a reply tells is what is read off it, unless the driver raises something. -/
theorem tells_iff {r : Reply} {x : QueryResult} :
    r.Tells x ↔ r.raises = none ∧ r.result = .ok x := by
  have hrows (names : List String) (rows : List Row) :
      r.rows.mapM (DriverRow.toRow names) = .ok rows ↔
        List.Forall₂ (DriverRow.Tells names) r.rows rows := by
    simp only [Result.mapM_eq_ok_iff, ← DriverRow.tells_iff]
  constructor
  · intro h
    cases h with
    | effect hraises hcolumns hcount =>
      refine ⟨hraises, ?_⟩
      rw [result, columns?_eq_none_iff.mpr hcolumns, effect, hcount.touched_eq]
    | @result names rows hraises hcolumns hnames hfetch htold =>
      refine ⟨hraises, ?_⟩
      rw [Reply.result, columns?_eq_some_iff.mpr ⟨hcolumns, hnames⟩]
      dsimp only
      rw [hfetch, (hrows names rows).mpr htold]
      rfl
  · rintro ⟨hraises, hresult⟩
    unfold Reply.result at hresult
    split at hresult
    · next hcolumns =>
      cases hresult
      exact .effect hraises (columns?_eq_none_iff.mp hcolumns) r.rowCount.comesTo_touched
    · next names hcolumns =>
      obtain ⟨hsome, hnames⟩ := columns?_eq_some_iff.mp hcolumns
      split at hresult
      · cases hresult
      · next hfetch =>
        obtain ⟨rows, hread, rfl⟩ := Result.map_eq_ok.mp hresult
        exact .result hraises hsome hnames hfetch ((hrows names rows).mp hread)

theorem Tells.lastRowId {r : Reply} {x : QueryResult} (h : r.Tells x) :
    x.lastRowId = r.rowNumber := by
  cases h with
  | effect hraises hcolumns => rw [rowNumber, columns?_eq_none_iff.mpr hcolumns]
  | result hraises hcolumns hnames =>
    rw [rowNumber, columns?_eq_some_iff.mpr ⟨hcolumns, hnames⟩]

theorem Tells.refused_eq_none {r : Reply} {x : QueryResult} (h : r.Tells x) : r.refused = none :=
  refused_of_raises (tells_iff.mp h).1

end Reply

theorem Result.translate_eq_ok_iff {α : Type} {sql : String} {shown : Option (List Value)}
    {x : Result α} {y : α} : Result.translate sql shown x = .ok y ↔ x = .ok y := by
  unfold Result.translate
  split <;> simp

/-! ## Replies that programs follow -/

namespace Run

variable {α β : Type} {r : Run α}

/-- The program follows no reply of the driver. -/
def Spares (r : Run α) : Prop := ∀ s, (r s).2.script = s.script

/-- The program follows one reply of the driver. -/
def Follows (r : Run α) : Prop := ∀ s, (r s).2.script = s.afterReply.script

namespace Spares

theorem pure (x : α) : Spares (Pure.pure x : Run α) := fun _ => rfl

theorem ofResult (x : Result α) : Spares (Run.ofResult x) := fun _ => rfl

theorem fail (e : Error) : Spares (Run.fail e : Run α) := fun _ => rfl

theorem report (e : Event) : Spares (Run.report e) := fun _ => rfl

theorem call (c : Call) : Spares (Run.call c) := fun _ => rfl

theorem countStatements (n : Nat) : Spares (Run.countStatements n) := fun _ => rfl

theorem check (g : Option Signal) : Spares (Run.check g) := by
  cases g with
  | none => exact pure ()
  | some g => exact fail (.raised g)

theorem bind {f : α → Run β} (hr : Spares r) (hf : ∀ x, Spares (f x)) : Spares (r >>= f) := by
  intro s
  have hs := hr s
  rw [bind_apply]
  rcases hrun : r s with ⟨e | x, t⟩ <;> rw [hrun] at hs
  · exact hs
  · exact (hf x t).trans hs

theorem closeCursor (cursor : Nat) (reply : Reply) : Spares (Run.closeCursor cursor reply) := by
  unfold Run.closeCursor
  split
  · exact (call _).bind fun _ => check _
  · exact pure ()

theorem readResult (cursor : Nat) (reply : Reply) : Spares (Run.readResult cursor reply) := by
  unfold Run.readResult
  split
  · exact pure _
  · exact (call _).bind fun _ => (check _).bind fun _ => (ofResult _).bind fun _ => pure _

end Spares

namespace Follows

theorem withCursor (c : Nat) {body : Nat → Reply → Run α}
    (hbody : ∀ cursor reply, Spares (body cursor reply)) : Follows (Run.withCursor c body) := by
  intro s
  rw [withCursor_apply]
  cases s.reply.refused with
  | some g => rfl
  | none =>
    dsimp only
    rw [always_session]
    exact (Spares.closeCursor _ _ _).trans (hbody _ _ _)

theorem onDriverError {answer : String → Run α} (hr : Follows r) (ha : ∀ m, Spares (answer m)) :
    Follows (r.onDriverError answer) := by
  intro s
  rw [onDriverError_apply]
  split
  · exact (ha _ _).trans (hr s)
  · exact hr s

theorem bind {f : α → Run β} (hr : Follows r) (hf : ∀ x, Spares (f x)) : Follows (r >>= f) := by
  intro s
  have hs := hr s
  rw [bind_apply]
  rcases hrun : r s with ⟨e | x, t⟩ <;> rw [hrun] at hs
  · exact hs
  · exact (hf x t).trans hs

end Follows

/-- A statement on a connection follows one reply. -/
theorem executeOn_follows (c : Nat) (sql : String) (bound : List Value) :
    Follows (executeOn c sql bound) := by
  intro s
  have hcursor : Follows (withCursor c fun cursor reply => do
      call (.execute cursor sql bound)
      check reply.runError
      readResult cursor reply) :=
    .withCursor c fun cursor reply =>
      (Spares.call _).bind fun _ => (Spares.check _).bind fun _ => .readResult cursor reply
  exact ((hcursor.onDriverError fun m => (Spares.report _).bind fun _ => .fail _).bind fun _ =>
    (Spares.countStatements 1).bind fun _ => .pure _)
    { s with events := s.events ++ [.executing sql bound.length] }

/-! ## Statements and their replies -/

variable {s t : Session} {c : Nat} {sql : String} {params : Value} {x : QueryResult}

/-- A statement whose parameters are bound returns what the reply tells. -/
theorem execute_eq_ok_iff (hc : s.adapter.connection = some c) {bound : List Value}
    (hbound : bindParams s.adapter.dialect params = .ok bound) :
    (execute sql params s).1 = .ok x ↔ s.reply.Tells x := by
  have hends := (Execution.run_of_binds hc sql (.one hbound)).1
  change (execute sql params s).1 = _ at hends
  rw [hends, Result.translate_eq_ok_iff, Reply.tells_iff, Reply.outcome]
  cases s.reply.raises with
  | none => simp [Execution.result]
  | some g => simp

/-- Whatever a statement returns is told by the reply. -/
theorem tells_of_execute (h : execute sql params s = (.ok x, t)) : s.reply.Tells x := by
  cases hc : s.adapter.connection with
  | none =>
    rw [execute, bind_of_disconnected hc] at h
    cases h
  | some c =>
    cases hbound : bindParams s.adapter.dialect params with
    | error e =>
      rw [execute_of_connected hc, ofResult_bind_error hbound] at h
      cases h
    | ok bound => exact (execute_eq_ok_iff hc hbound).mp (congrArg Prod.fst h)

end Run

/-- **A statement goes as its reply says.**  On a connection it is sent if a cursor is granted.  It
fails if its reply tells nothing, and otherwise returns what its reply tells; what comes behind it
finds the adapter with one more statement, and follows the next reply. -/
theorem Statement.run_cases {st : Statement} (hst : ∀ p ∈ st.params, p.isParameter = true)
    {s : Session} {c : Nat} (hc : s.adapter.connection = some c) :
    (∃ e t, st.run s = (.error e, t) ∧ (∀ x, ¬ s.reply.Tells x) ∧
      t.sent = s.sent ++ if s.reply.refused.isNone then [st.sentIn s.adapter.dialect] else []) ∨
    ∃ x t, st.run s = (.ok x, t) ∧ s.reply.Tells x ∧
      t.sent = s.sent ++ [st.sentIn s.adapter.dialect] ∧
      t.adapter = s.adapter.counting 1 ∧ t.reply = s.afterReply.reply := by
  have hbound := Run.bindParams_parameters s.adapter.dialect hst
  have hiff (x : QueryResult) : (st.run s).1 = .ok x ↔ s.reply.Tells x :=
    Run.execute_eq_ok_iff hc hbound
  have hrun : st.run s =
      Run.executeOn c st.sql (st.params.map s.adapter.dialect.adapt) s := by
    rw [Statement.run, Run.execute_of_connected hc, Run.ofResult_bind_ok hbound]
  have hsent := Run.executeOn_sent c st.sql (st.params.map s.adapter.dialect.adapt) s
  have hscript := Run.executeOn_follows c st.sql (st.params.map s.adapter.dialect.adapt) s
  rw [← hrun] at hsent hscript
  rcases hr : st.run s with ⟨e | x, t⟩
  · rw [hr] at hsent
    refine .inl ⟨e, t, rfl, fun x hx => ?_, hsent⟩
    have hok := (hiff x).mpr hx
    rw [hr] at hok
    cases hok
  · have htells := (hiff x).mp (congrArg Prod.fst hr)
    obtain ⟨hends, hadapter⟩ := Execution.run_of_binds hc st.sql (.one hbound)
    change (st.run s).1 = _ at hends
    change (st.run s).2.adapter = _ at hadapter
    rw [hr] at hends hadapter hsent hscript
    rw [← hends] at hadapter
    rw [htells.refused_eq_none] at hsent
    exact .inr ⟨x, t, rfl, htells, hsent, hadapter,
      congrArg (fun script => script.replies.headD {}) hscript⟩

/-! ## Falling back -/

/-- How a program goes that runs a first statement and, where that finds nothing, a second one, by
the replies of the driver. -/
structure Run.FallsBack {α : Type} (r : Run α) (s : Session)
    (first second : String × List (List Value)) (found : QueryResult → Prop) (x : α) : Prop where
  /-- Without a cursor nothing is sent. -/
  refused : s.reply.refused ≠ none → (r s).2.sent = s.sent
  /-- With one the first statement is sent, and behind it nothing but the second, exactly if the
  first returns and has found nothing, and there is a cursor again. -/
  sent : s.reply.refused = none → ∃ rest, (r s).2.sent = s.sent ++ first :: rest ∧
    (rest = [] ∨ rest = [second]) ∧
    (rest = [second] ↔
      (∃ y, s.reply.Tells y ∧ ¬ found y) ∧ s.afterReply.reply.refused = none)
  /-- It succeeds exactly if the first statement returns, and the second one, too, if it is run. -/
  succeeds : (r s).1 = .ok x ↔
    ∃ y, s.reply.Tells y ∧ (found y ∨ ∃ z, s.afterReply.reply.Tells z)

theorem Reply.Tells.unique {r : Reply} {x y : QueryResult} (hx : r.Tells x) (hy : r.Tells y) :
    x = y :=
  Except.ok.inj ((tells_iff.mp hx).2.symm.trans (tells_iff.mp hy).2)

namespace Run.FallsBack

variable {α : Type} {r r' : Run α} {s t : Session} {first second : String × List (List Value)}
  {found : QueryResult → Prop} {x : α} {y z : QueryResult} {e : Error}

theorem congr (h : r s = r' s) (hr : FallsBack r' s first second found x) :
    FallsBack r s first second found x := by
  constructor <;> rw [h]
  · exact hr.refused
  · exact hr.sent
  · exact hr.succeeds

theorem of_silent (hrun : r s = (.error e, t)) (hnone : ∀ y, ¬ s.reply.Tells y)
    (hsent : t.sent = s.sent ++ if s.reply.refused.isNone then [first] else []) :
    FallsBack r s first second found x := by
  refine ⟨fun hrefused => ?_, fun hgranted => ⟨[], ?_, .inl rfl, nofun, ?_⟩, ?_⟩
  · rw [Option.isNone_eq_false_iff.mpr (Option.isSome_iff_ne_none.mpr hrefused)] at hsent
    rw [hrun, hsent]
    exact List.append_nil _
  · rw [hgranted] at hsent
    rw [hrun]
    exact hsent
  · rintro ⟨⟨y, hy, -⟩, -⟩
    exact (hnone y hy).elim
  · rw [hrun]
    refine ⟨nofun, ?_⟩
    rintro ⟨y, hy, -⟩
    exact (hnone y hy).elim

theorem of_found (hrun : r s = (.ok x, t)) (htells : s.reply.Tells y) (hfound : found y)
    (hsent : t.sent = s.sent ++ [first]) : FallsBack r s first second found x := by
  refine ⟨fun hrefused => ?_, fun _ => ⟨[], ?_, .inl rfl, nofun, ?_⟩, ?_⟩
  · exact (hrefused htells.refused_eq_none).elim
  · rw [hrun]
    exact hsent
  · rintro ⟨⟨y', hy', hnot⟩, -⟩
    rw [hy'.unique htells] at hnot
    exact (hnot hfound).elim
  · rw [hrun]
    exact ⟨fun _ => ⟨y, htells, .inl hfound⟩, fun _ => rfl⟩

section

variable (htells : s.reply.Tells y) (hlost : ¬ found y)

include htells hlost

theorem of_lost (hrun : r s = (.error e, t)) (hnone : ∀ z, ¬ s.afterReply.reply.Tells z)
    (hsent : t.sent =
      s.sent ++ first :: if s.afterReply.reply.refused.isNone then [second] else []) :
    FallsBack r s first second found x := by
  refine ⟨fun hrefused => (hrefused htells.refused_eq_none).elim, fun _ => ?_, ?_⟩
  · cases hnext : s.afterReply.reply.refused with
    | none =>
      rw [hnext] at hsent
      refine ⟨[second], ?_, .inr rfl, fun _ => ⟨⟨y, htells, hlost⟩, rfl⟩, fun _ => rfl⟩
      rw [hrun]
      exact hsent
    | some g =>
      rw [hnext] at hsent
      refine ⟨[], ?_, .inl rfl, nofun, fun h => nomatch h.2⟩
      rw [hrun]
      exact hsent
  · rw [hrun]
    refine ⟨nofun, ?_⟩
    rintro ⟨y', hy', hfound | ⟨z, hz⟩⟩
    · rw [hy'.unique htells] at hfound
      exact (hlost hfound).elim
    · exact (hnone z hz).elim

theorem of_added (hrun : r s = (.ok x, t)) (hadded : s.afterReply.reply.Tells z)
    (hsent : t.sent = s.sent ++ [first, second]) : FallsBack r s first second found x := by
  refine ⟨fun hrefused => (hrefused htells.refused_eq_none).elim, fun _ => ?_, ?_⟩
  · refine ⟨[second], ?_, .inr rfl, fun _ => ⟨⟨y, htells, hlost⟩, hadded.refused_eq_none⟩,
      fun _ => rfl⟩
    rw [hrun]
    exact hsent
  · rw [hrun]
    exact ⟨fun _ => ⟨y, htells, .inr ⟨z, hadded⟩⟩, fun _ => rfl⟩

end

end Run.FallsBack

/-- A statement with another one behind it goes as their replies say. -/
theorem Statement.fallsBack {α : Type} {first second : Statement} {s : Session} {c : Nat}
    (hfirst : ∀ p ∈ first.params, p.isParameter = true)
    (hsecond : ∀ p ∈ second.params, p.isParameter = true)
    (hc : s.adapter.connection = some c) (found : QueryResult → Prop) [DecidablePred found]
    (x : α) :
    Run.FallsBack (do
      let r ← first.run
      if found r then return x
      else do
        let _ ← second.run
        return x : Run α) s
      (first.sentIn s.adapter.dialect) (second.sentIn s.adapter.dialect) found x := by
  rcases Statement.run_cases hfirst hc with
    ⟨e, t, hrun, hnone, hsent⟩ | ⟨y, t, hrun, htells, hsent, hadapter, hreply⟩
  · refine .of_silent (e := e) ?_ hnone hsent
    rw [Run.bind_apply, hrun]
  · by_cases hfound : found y
    · refine .of_found ?_ htells hfound hsent
      rw [Run.bind_apply, hrun]
      simp only [if_pos hfound]
      rfl
    · have hnext : t.adapter.connection = some c := by
        rw [hadapter]
        exact hc
      have hdialect : t.adapter.dialect = s.adapter.dialect := by
        rw [hadapter]
        rfl
      rcases Statement.run_cases hsecond hnext with
        ⟨e, u, hrun', hnone, hsent'⟩ | ⟨z, u, hrun', htells', hsent', -, -⟩
      · rw [hreply] at hnone hsent'
        refine .of_lost htells hfound (t := u) (e := e) ?_ hnone ?_
        · rw [Run.bind_apply, hrun]
          simp only [if_neg hfound]
          rw [Run.bind_apply, hrun']
        · rw [hsent', hsent, hdialect, List.append_assoc]
          rfl
      · rw [hreply] at htells'
        refine .of_added htells hfound (t := u) ?_ htells' ?_
        · rw [Run.bind_apply, hrun]
          simp only [if_neg hfound]
          rw [Run.bind_apply, hrun']
          rfl
        · rw [hsent', hsent, hdialect, List.append_assoc]
          rfl

end RelMap
