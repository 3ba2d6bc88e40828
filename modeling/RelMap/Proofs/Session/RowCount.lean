import RelMap.Proofs.Session.Execution
import RelMap.Proofs.Session.Sent

/-!
# Touched rows

A cursor that has run a statement without a result may say how many rows were touched, may say that
it does not know, or may say nothing at all.  What it says comes to a number of rows in one way only
(`RowCount.ComesTo`), and a statement that is run once reports this number whatever the cursor says.
A statement that is run for several rows of parameters reports it, too, unless the cursor does not
know: then it fails, although the driver has run it, and is not counted (`Run.touched_alike`).
-/

namespace RelMap

namespace RowCount

/-- The number of rows that the word of a cursor comes to: a positive number is taken as it is, and
anything else is no row. -/
inductive ComesTo : RowCount → Nat → Prop
  | positive {n : Nat} (h : 0 < n) : ComesTo (.count n) n
  | nothing {r : RowCount} (h : ∀ n : Int, r = .count n → n ≤ 0) : ComesTo r 0

theorem comesTo_touched (r : RowCount) : r.ComesTo r.touched := by
  cases r with
  | count n =>
    by_cases hn : 0 < n
    · obtain ⟨k, rfl⟩ := Int.eq_ofNat_of_zero_le (Int.le_of_lt hn)
      exact .positive (Int.ofNat_lt.mp hn)
    · have hle : n ≤ 0 := Int.not_lt.mp hn
      rw [touched, Int.toNat_of_nonpos hle]
      refine .nothing fun m hm => ?_
      cases hm
      exact hle
  | _ => exact .nothing nofun

theorem ComesTo.touched_eq {r : RowCount} {n : Nat} (h : r.ComesTo n) : r.touched = n := by
  cases h with
  | positive h => exact Int.toNat_natCast n
  | nothing h =>
    cases r with
    | count n => exact Int.toNat_of_nonpos (h n rfl)
    | _ => rfl

/-- A cursor that does not say that it does not know is understood alike after one statement and
after several. -/
theorem touchedByMany_of_ne {r : RowCount} (h : r ≠ .unknown) :
    r.touchedByMany = .ok r.touched := by
  cases r with
  | unknown => exact (h rfl).elim
  | _ => rfl

end RowCount

/-- Where the driver raises nothing, what is read off its reply is the outcome. -/
theorem Reply.outcome_of_raises {α : Type} {r : Reply} (h : r.raises = none) (x : Result α) :
    r.outcome x = x := by
  rw [outcome, h]

namespace Run

/-- The program succeeds with a result that has no rows and says how many were touched, and the
adapter counts its statements. -/
structure Touches (r : Run QueryResult) (s : Session) (touched statements : Nat) : Prop where
  result : ∃ x, (r s).1 = .ok x ∧ x.rows = [] ∧ x.rowCount = touched
  adapter : (r s).2.adapter = s.adapter.counting statements

variable {s : Session} {c : Nat}

section Exchange

variable (hc : s.adapter.connection = some c) (hraises : s.reply.raises = none) (sql : String)

include hc hraises

theorem execute_touches (hcolumns : s.reply.columns? = none) {params : Value} {bound : List Value}
    (hbound : bindParams s.adapter.dialect params = .ok bound) :
    (execute sql params).Touches s s.reply.rowCount.touched 1 := by
  obtain ⟨hresult, hadapter⟩ := Execution.run_of_binds hc sql (.one hbound)
  rw [Reply.outcome_of_raises hraises, Execution.result, Reply.result, hcolumns] at hresult hadapter
  exact ⟨⟨_, hresult, rfl, rfl⟩, hadapter⟩

/-- A statement that the driver has run for several rows of parameters ends as the word of the cursor
is understood. -/
theorem executeMany_ends {sets : Value} {rows : List (List Value)}
    (hbound : bindSets s.adapter.dialect sets = .ok rows) :
    (executeMany sql sets s).1 = Result.translate sql none s.reply.manyResult ∧
      (executeMany sql sets s).2.adapter =
        if (Result.translate sql none s.reply.manyResult).isOk then s.adapter.counting rows.length
        else s.adapter := by
  obtain ⟨hresult, hadapter⟩ := Execution.run_of_binds hc sql (.many hbound)
  rw [Reply.outcome_of_raises hraises] at hresult hadapter
  exact ⟨hresult, hadapter⟩

theorem executeMany_touches (hknown : s.reply.rowCount ≠ .unknown) {sets : Value}
    {rows : List (List Value)} (hbound : bindSets s.adapter.dialect sets = .ok rows) :
    (executeMany sql sets).Touches s s.reply.rowCount.touched rows.length := by
  obtain ⟨hresult, hadapter⟩ := executeMany_ends hc hraises sql hbound
  rw [Reply.manyResult, RowCount.touchedByMany_of_ne hknown] at hresult hadapter
  exact ⟨⟨_, hresult, rfl, rfl⟩, hadapter⟩

theorem executeMany_of_unknown (hunknown : s.reply.rowCount = .unknown) {sets : Value}
    {rows : List (List Value)} (hbound : bindSets s.adapter.dialect sets = .ok rows) :
    (executeMany sql sets s).1 = .error (.fault .wrongType) ∧
      (executeMany sql sets s).2.adapter = s.adapter := by
  obtain ⟨hresult, hadapter⟩ := executeMany_ends hc hraises sql hbound
  rw [Reply.manyResult, hunknown] at hresult hadapter
  exact ⟨hresult, hadapter⟩

end Exchange

/-- **Touched rows are reported alike.**  On a connected adapter, a driver that raises nothing while
it runs a statement without a result is sent the statement, once, with the parameters as they are
bound.  What its cursor says comes to a number of rows.  A statement that is run once succeeds,
reports this number and is counted.  A statement that is run for several rows of parameters does so
exactly if the cursor does not say that it does not know, and is counted for each of them; otherwise
it fails for a value of the wrong type, and the adapter is as before. -/
theorem touched_alike (hc : s.adapter.connection = some c) (hraises : s.reply.raises = none)
    (hcolumns : s.reply.columns? = none) (sql : String) :
    ∃ touched, s.reply.rowCount.ComesTo touched ∧
      (∀ params bound, bindParams s.adapter.dialect params = .ok bound →
        (execute sql params s).2.sent = s.sent ++ [(sql, [bound])] ∧
        (execute sql params).Touches s touched 1) ∧
      ∀ sets rows, bindSets s.adapter.dialect sets = .ok rows →
        (executeMany sql sets s).2.sent = s.sent ++ [(sql, rows)] ∧
        ((executeMany sql sets).Touches s touched rows.length ↔ s.reply.rowCount ≠ .unknown) ∧
        (s.reply.rowCount = .unknown →
          (executeMany sql sets s).1 = .error (.fault .wrongType) ∧
          (executeMany sql sets s).2.adapter = s.adapter) := by
  have hgranted : s.reply.refused.isNone = true := by
    rw [Reply.refused_of_raises hraises]
    rfl
  refine ⟨_, s.reply.rowCount.comesTo_touched, fun params bound hbound => ⟨?_, ?_⟩,
    fun sets rows hbound => ⟨?_, ⟨fun h hunknown => ?_, fun hknown => ?_⟩, fun hunknown => ?_⟩⟩
  · rw [execute_of_connected hc, ofResult_bind_ok hbound, executeOn_sent, if_pos hgranted]
  · exact execute_touches hc hraises sql hcolumns hbound
  · rw [executeMany_of_connected hc, ofResult_bind_ok hbound, executeManyOn_sent, if_pos hgranted]
  · obtain ⟨x, hx, -, -⟩ := h.result
    rw [(executeMany_of_unknown hc hraises sql hunknown hbound).1] at hx
    cases hx
  · exact executeMany_touches hc hraises sql hknown hbound
  · exact executeMany_of_unknown hc hraises sql hunknown hbound

/-- A cursor that does not know how many users were touched. -/
theorem touched_alike_unsure :
    let s := Execution.following { rowCount := .unknown }
    (execute "UPDATE users SET active = ?" (.list [.bool true])).Touches s 0 1 ∧
      (executeMany "UPDATE users SET active = ?" (.list [.list [.bool true]]) s).1 =
        .error (.fault .wrongType) ∧
      (executeMany "UPDATE users SET active = ?" (.list [.list [.bool true]]) s).2.sent =
        [("UPDATE users SET active = ?", [[.int 1]])] := by
  intro s
  obtain ⟨touched, hcomes, hone, hmany⟩ :=
    touched_alike (s := s) rfl rfl rfl "UPDATE users SET active = ?"
  have hnone : touched = 0 := by
    cases hcomes
    rfl
  obtain ⟨hsent, -, hunknown⟩ := hmany (.list [.list [.bool true]]) _ rfl
  exact ⟨hnone ▸ (hone (.list [.bool true]) _ rfl).2, (hunknown rfl).1, hsent⟩

/-- Touched rows are not always reported: a statement that the driver has run for several rows of
parameters may fail. -/
theorem touched_not_always_reported :
    ¬ ∀ (s : Session) (c : Nat) (sql : String) (sets : Value) (rows : List (List Value)),
      s.adapter.connection = some c → s.reply.raises = none → s.reply.columns? = none →
      bindSets s.adapter.dialect sets = .ok rows →
      ∃ touched, s.reply.rowCount.ComesTo touched ∧
        (executeMany sql sets).Touches s touched rows.length := by
  intro hall
  obtain ⟨touched, -, h⟩ := hall (Execution.following { rowCount := .unknown }) 0
    "UPDATE users SET active = ?" (.list [.list [.int 1], .list [.int 2]]) _ rfl rfl rfl rfl
  obtain ⟨x, hx, -⟩ := h.result
  cases hx

end Run

end RelMap
