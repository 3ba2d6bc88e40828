import RelMap.Arguments
import RelMap.Error
import RelMap.Row

/-!
# Drivers

A driver opens connections; a connection grants cursors, and a cursor runs a statement and hands out
its rows.  Here a driver is known by two things: what it answers (`Reply`, one for each cursor) and
what it was asked (`Call`).  Connections and cursors are numbered by the calls that made them.
-/

namespace RelMap

/-! ## Answers -/

/-- What a cursor says of the number of rows that a statement touched. -/
inductive RowCount where
  | absent
  | unknown
  | count (n : Int)
deriving DecidableEq, Repr

/-- A row as a driver hands it out: a value, or an object that offers keys and look-up only. -/
inductive DriverRow where
  | value (v : Value)
  | keyed (entries : Row)
deriving Repr

/-- What the driver does when a cursor is asked for, and what the cursor answers. -/
structure Reply where
  refused : Option Signal := none
  runError : Option Signal := none
  fetchError : Option Signal := none
  closeError : Option Signal := none
  /-- The names of the columns, if the statement has a result. -/
  columns : Option (List String) := none
  rowCount : RowCount := .count (-1)
  lastRowId : Value := .null
  rows : List DriverRow := []
  closes : Bool := true
deriving Repr

/-- What a driver does next: how the opening of a connection fails, if it does, and the replies to
the coming cursors; when none are left, cursors answer nothing. -/
structure Script where
  openError : Option Signal := none
  replies : List Reply := []
deriving Repr, Inhabited

/-- Whether connections can be closed, and how closing fails, if it does. -/
structure Closing where
  closes : Bool := true
  error : Option Signal := none
deriving Repr

/-! ## Calls -/

inductive Call where
  /-- The opening of a connection, with the number of the connection if it succeeded. -/
  | openConnection (connection : Option Nat) (positional : List Value) (named : Arguments)
  /-- A request for a cursor, with the number of the cursor if it was granted. -/
  | openCursor (connection : Nat) (cursor : Option Nat)
  /-- The run of a statement with its parameters.  Where there are none the cursor is handed the text
  alone, without a list. -/
  | execute (cursor : Nat) (sql : String) (params : List Value)
  | executeMany (cursor : Nat) (sql : String) (sets : List (List Value))
  | fetch (cursor : Nat)
  | closeCursor (cursor : Nat)
  | closeConnection (connection : Nat)
deriving Repr

/-! ## Results -/

structure QueryResult where
  rows : List Row := []
  rowCount : Nat := 0
  lastRowId : Value := .null
deriving Repr

namespace QueryResult

def first? (r : QueryResult) : Option Row := r.rows.head?

end QueryResult

/-- A driver's row by the names of the columns: maps keep their own keys, and values in order are
put under the names. -/
def DriverRow.toRow (names : List String) : DriverRow → Result Row
  | .value (.map entries) => .ok entries
  | .value (.tuple values) => .ok (Row.ofColumns names values)
  | .value (.list values) => .ok (Row.ofColumns names values)
  | .value v => .error (.unsupportedRow v.typeDisplay)
  | .keyed entries => .ok entries

namespace RowCount

/-- The number of touched rows after one statement; what is not known counts as none. -/
def touched : RowCount → Nat
  | count n => n.toNat
  | _ => 0

/-- The number of touched rows after a statement that was run for several rows of parameters; a
cursor must not say that it does not know. -/
def touchedByMany : RowCount → Result Nat
  | count n => .ok n.toNat
  | absent => .ok 0
  | unknown => .error (.fault .wrongType)

end RowCount

namespace Reply

/-- The names of the columns of the result, if there is a result with columns. -/
def columns? (r : Reply) : Option (List String) :=
  match r.columns with
  | some (n :: ns) => some (n :: ns)
  | _ => none

def effect (r : Reply) : QueryResult where
  rowCount := r.rowCount.touched
  lastRowId := if r.lastRowId.truthy then r.lastRowId else .null

end Reply

end RelMap
