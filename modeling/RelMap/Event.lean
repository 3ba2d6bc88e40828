import RelMap.Name

/-!
# Events

What the library reports while it works.  An event has a severity, a name and named details; the
values of parameters and the credentials of a connection are never among the details.
-/

namespace RelMap

inductive Severity where
  | debug
  | info
  | error
deriving DecidableEq, Repr

def Severity.name : Severity → String
  | debug => "debug"
  | info => "info"
  | error => "error"

/-- What a connection may be described by in a report. -/
abbrev Details := List (String × Value)

inductive Event where
  | registered (model : String) (table : Name) (columns : Nat)
  | connectFailed (connection : Details)
  | connected (connection : Details)
  | disconnected (undone : Bool) (connection : Details)
  | executing (sql : String) (params : Nat)
  | executingMany (sql : String) (batches : Nat)
  | executionFailed (sql message : String)
  | begun
  | committed
  | rolledBack
  | controlFailed (statement message : String)
deriving Repr

namespace Event

def severity : Event → Severity
  | connectFailed _ | executionFailed _ _ | controlFailed _ _ => .error
  | connected _ | disconnected _ _ => .info
  | _ => .debug

def name : Event → String
  | registered _ _ _ => "model.registered"
  | connectFailed _ => "db.connect.failed"
  | connected _ => "db.connected"
  | disconnected _ _ => "db.disconnected"
  | executing _ _ => "db.execute"
  | executingMany _ _ => "db.execute_many"
  | executionFailed _ _ => "db.execute.failed"
  | begun => "db.transaction.begin"
  | committed => "db.transaction.commit"
  | rolledBack => "db.transaction.rollback"
  | controlFailed _ _ => "db.transaction.failed"

def details : Event → Details
  | registered model table columns =>
    [("model", .text model), ("table", table.toValue), ("columns", .int columns)]
  | connectFailed connection => ("exc_info", .bool true) :: connection
  | connected connection => connection
  | disconnected undone connection => ("rolled_back", .bool undone) :: connection
  | executing sql params => [("sql", .text sql), ("param_count", .int params)]
  | executingMany sql batches => [("sql", .text sql), ("batches", .int batches)]
  | executionFailed sql message => [("sql", .text sql), ("error", .text message)]
  | begun | committed | rolledBack => []
  | controlFailed statement message =>
    [("statement", .text statement), ("error", .text message)]

end Event

end RelMap
