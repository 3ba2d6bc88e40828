import RelMap.Parameter
import RelMap.Session.Basic

/-!
# Adapter operations

An adapter is disconnected, connected, or connected with an open transaction.  Operations that need
a connection fail without one, and beginning, committing and rolling back fail where they do not fit
the state.  Errors of the driver become errors of the library; all other errors pass through.

`Run.transaction` runs a program between the beginning of a transaction and its end: the transaction
is committed if the program succeeds and rolled back if it fails.
-/

namespace RelMap

/-- The parameters of a statement, bound for a dialect: nothing, or a sequence of values that is
neither text nor bytes nor a map. -/
def bindParams (d : Dialect) (params : Value) : Result (List Value) :=
  match params with
  | .null => .ok []
  | .map _ => .error .paramsNotPositional
  | .bytes .bytes _ => .error .paramsNotPositional
  | v =>
    if v.textOf?.isSome then .error .paramsNotPositional
    else match v.items? with
      | some vs => (toParameters vs).map fun ps => ps.map d.adapt
      | none => .error (.fault .wrongType)

/-- The rows of parameters of a statement, bound for a dialect. -/
def bindSets (d : Dialect) (sets : Value) : Result (List (List Value)) :=
  match sets.items? with
  | some rows => rows.mapM (bindParams d)
  | none => .error (.fault .wrongType)

namespace Run

def requireConnection : Run Nat := do
  match (← adapter).connection with
  | some c => pure c
  | none => fail .notConnected

/-! ## Connecting -/

def connect : Run Unit := do
  let a ← adapter
  match a.connection with
  | some _ => pure ()
  | none =>
    let details := a.backend.describe a.dialect
    let connection ← (openConnection a.backend).onDriverError fun message => do
      report (.connectFailed details)
      fail (.connectionFailed message)
    modifyAdapter fun a => { a with connection := some connection, inTransaction := false }
    report (.connected details)

def control (statement : String) : Run Unit := do
  let connection ← requireConnection
  (withCursor connection fun cursor reply => do
    call (.execute cursor statement [])
    check reply.runError).onDriverError fun message => do
      report (.controlFailed statement message)
      fail (.executionFailed message statement none)

/-- Gives the connection up, if there is one, after rolling back an open transaction. -/
def disconnect : Run Unit := do
  let a ← adapter
  match a.connection with
  | none => pure ()
  | some connection =>
    (if a.inTransaction then control "ROLLBACK" else pure ()).always do
      modifyAdapter fun a => { a with connection := none, inTransaction := false }
      closeConnection connection
      report (.disconnected a.inTransaction (a.backend.describe a.dialect))

/-! ## Statements -/

def readResult (cursor : Nat) (reply : Reply) : Run QueryResult :=
  match reply.columns? with
  | none => pure reply.effect
  | some names => do
    call (.fetch cursor)
    check reply.fetchError
    let rows ← ofResult (reply.rows.mapM fun r => r.toRow names)
    pure { rows := rows, rowCount := rows.length }

def countStatements (n : Nat) : Run Unit :=
  modifyAdapter fun a => { a with statements := a.statements + n }

def execute (sql : String) (params : Value := .null) : Run QueryResult := do
  let connection ← requireConnection
  let bound ← ofResult (bindParams (← adapter).dialect params)
  report (.executing sql bound.length)
  let result ← (withCursor connection fun cursor reply => do
    call (.execute cursor sql bound)
    check reply.runError
    readResult cursor reply).onDriverError fun message => do
      report (.executionFailed sql message)
      fail (.executionFailed message sql (some bound))
  countStatements 1
  pure result

def executeMany (sql : String) (sets : Value) : Run QueryResult := do
  let connection ← requireConnection
  let bound ← ofResult (bindSets (← adapter).dialect sets)
  report (.executingMany sql bound.length)
  let touched ← (withCursor connection fun cursor reply => do
    call (.executeMany cursor sql bound)
    check reply.runError
    ofResult reply.rowCount.touchedByMany).onDriverError fun message => do
      report (.executionFailed sql message)
      fail (.executionFailed message sql none)
  countStatements bound.length
  pure { rowCount := touched }

/-! ## Transactions -/

def setTransaction (active : Bool) : Run Unit :=
  modifyAdapter fun a => { a with inTransaction := active }

def beginTransaction : Run Unit := do
  let _ ← requireConnection
  if (← adapter).inTransaction then fail .transactionActive
  else
    control "BEGIN"
    setTransaction true
    report .begun

def commit : Run Unit := do
  let _ ← requireConnection
  if (← adapter).inTransaction then
    control "COMMIT"
    setTransaction false
    report .committed
  else fail .nothingToCommit

def rollback : Run Unit := do
  let _ ← requireConnection
  if (← adapter).inTransaction then
    (control "ROLLBACK").always (setTransaction false)
    report .rolledBack
  else fail .nothingToRollBack

/-- Ends the transaction after a program: commits if the program succeeded, and otherwise rolls
back, if a transaction is still open, and passes the error on. -/
def leaveTransaction {α : Type} : Result α → Run α
  | .ok x => do
    commit
    pure x
  | .error e => do
    let a ← adapter
    if a.inTransaction && a.connection.isSome then rollback
    fail e

def transaction {α : Type} (body : Run α) : Run α := do
  beginTransaction
  leaveTransaction (← body.attempt)

/-- Gives the connection up after a program, whose outcome is passed on. -/
def leaveContext {α : Type} (outcome : Result α) : Run α := do
  disconnect
  ofResult outcome

def context {α : Type} (body : Run α) : Run α := do
  connect
  leaveContext (← body.attempt)

end Run

end RelMap
