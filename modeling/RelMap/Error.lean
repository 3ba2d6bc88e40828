import RelMap.Name
import RelMap.Settings.Fault

/-!
# Errors

`Error` lists what can go wrong, one constructor for each cause.  `Error.kind` sorts the causes into
the kinds that a caller tells apart, and `Error.message` words them; faults of the platform, such as
a missing attribute, have a kind and no wording of their own.
-/

namespace RelMap

/-- What a driver raises: an error of its own, an ordinary exception, or one that aborts the
program. -/
inductive Signal where
  | driver (message : String)
  | other (message : String)
  | abort (message : String)
deriving DecidableEq, Repr

def Signal.message : Signal → String
  | driver m => m
  | other m => m
  | abort m => m

/-- Faults that no message describes: a value of the wrong type or content, an attribute or a key
that does not exist, a text that is no number, a text that is no expression. -/
inductive Fault where
  | wrongType
  | wrongValue
  | missingAttribute
  | missingKey
  | badNumber
  | malformed
deriving DecidableEq, Repr

inductive Error where
  | unsupportedParameter (typeName : String)
  | invalidName (role : String) (given : Value)
  | operatorNotText (given : Value)
  | unsupportedOperator (given : Value)
  | operatorWithValue (operator : String)
  | operatorWithoutSequence (operator : String)
  | operatorWithSequence (operator : String)
  | countNotInteger (clause : String) (given : Value)
  | countNegative (clause : String) (given : Value)
  | rowNotMap
  | projectionText (given : Value)
  | conditionWithOperator
  | operatorMissing
  | returningNothing
  /-- A part that statements of this kind do not have. -/
  | foreignPart (statement part : String)
  | foreignPaging (statement : String)
  | returningOnSelect
  | unknownStatement (given : Value)
  | returningUnsupported (dialect : Value)
  | unknownColumn (column : Value) (model : String) (table : Name)
  | keyMissing (model : String)
  | deleteWithoutKey
  | noStatement
  | noTable (statement : String)
  | noColumns
  | noValues
  | noAssignments
  | columnDeclared (model : String) (field : Value)
  | keyDeclared (model : String) (key : Name)
  | unregistered (model : String)
  | fieldNull (field : Value)
  | fieldTooLong (field length : Value)
  | notConnected
  | transactionActive
  | nothingToCommit
  | nothingToRollBack
  | connectionFailed (message : String)
  /-- A statement that the driver rejected, with its parameters if it had a list of them. -/
  | executionFailed (message sql : String) (params : Option (List Value))
  | columnTypeNotText (typeName : String)
  | columnOptionsExpected (model field : String)
  | paramsNotPositional
  | unsupportedRow (typeDisplay : String)
  | unknownColumnType (given : Value)
  | unsupportedStyle (style : String)
  | unknownLevel (given : Value)
  | driverMissing
  /-- Settings that do not validate: each offending setting with the kind of its fault. -/
  | invalidSettings (faults : List (String × SettingFault))
  | fault (f : Fault)
  | raised (s : Signal)
deriving Repr

/-- The kinds of errors that a caller tells apart. -/
inductive ErrorKind where
  | unregistered
  | duplicateColumn
  | invalidQuery
  | incompleteQuery
  | validation
  | notConnected
  | transactionState
  | connection
  | execution
  | settings
  | dependency
  | typeFault
  | valueFault
  | attributeFault
  | keyFault
  | numberFault
  | formFault
  | driverSignal
  | otherSignal
  | abortSignal
deriving DecidableEq, Repr

namespace Error

def kind : Error → ErrorKind
  | unregistered _ => .unregistered
  | columnDeclared _ _ | keyDeclared _ _ => .duplicateColumn
  | noStatement | noTable _ | noColumns | noValues | noAssignments => .incompleteQuery
  | fieldNull _ | fieldTooLong _ _ => .validation
  | notConnected => .notConnected
  | transactionActive | nothingToCommit | nothingToRollBack => .transactionState
  | connectionFailed _ => .connection
  | executionFailed _ _ _ => .execution
  | invalidSettings _ => .settings
  | driverMissing => .dependency
  | columnTypeNotText _ | columnOptionsExpected _ _ | paramsNotPositional | unsupportedRow _
  | fault .wrongType => .typeFault
  | unknownColumnType _ | unsupportedStyle _ | unknownLevel _ | fault .wrongValue => .valueFault
  | fault .missingAttribute => .attributeFault
  | fault .missingKey => .keyFault
  | fault .badNumber => .numberFault
  | fault .malformed => .formFault
  | raised (.driver _) => .driverSignal
  | raised (.other _) => .otherSignal
  | raised (.abort _) => .abortSignal
  | _ => .invalidQuery

/-- The wording of an error; faults and settings have none. -/
def message : Error → Option String
  | unsupportedParameter typeName => some <|
    "Unsupported parameter type " ++ typeName ++
      "; expected None, bool, int, float, str, or bytes."
  | invalidName role given => some <| "Invalid " ++ role ++ " " ++ given.literal ++ "."
  | operatorNotText given => some <| "Operator must be a string, got " ++ given.literal ++ "."
  | unsupportedOperator given => some <| "Unsupported operator " ++ given.literal ++ "."
  | operatorWithValue operator => some <| "Operator " ++ operator ++ " does not take a value."
  | operatorWithoutSequence operator =>
    some <| "Operator " ++ operator ++ " requires a sequence of values."
  | operatorWithSequence operator =>
    some <| "Operator " ++ operator ++ " requires a scalar value."
  | countNotInteger clause given =>
    some <| clause ++ " must be an integer, got " ++ given.literal ++ "."
  | countNegative clause given =>
    some <| clause ++ " must be non-negative, got " ++ given.display ++ "."
  | rowNotMap => some "Row data must be a mapping of column -> value."
  | projectionText given =>
    some <| "select() takes a column list or '*', got " ++ given.literal ++ "."
  | conditionWithOperator => some "where(Condition) takes no operator."
  | operatorMissing => some "where() requires an operator."
  | returningNothing => some "returning() requires at least one column."
  | foreignPart statement part => some <| statement ++ " query cannot carry " ++ part ++ "."
  | foreignPaging statement =>
    some <| statement ++ " query cannot carry ORDER BY/LIMIT/OFFSET."
  | returningOnSelect => some "SELECT does not take RETURNING."
  | unknownStatement given => some <| "Unknown statement kind " ++ given.literal ++ "."
  | returningUnsupported dialect =>
    some <| "Dialect " ++ dialect.literal ++ " does not support RETURNING."
  | unknownColumn column model table =>
    some <| "Unknown column " ++ column.literal ++ " for model " ++ model ++ " (table " ++
      table.literal ++ ")."
  | keyMissing model => some <| model ++ " has no primary key column."
  | deleteWithoutKey => some "Cannot DELETE without primary key set on object."
  | noStatement => some "No statement kind; call select(), insert(), update() or delete()."
  | noTable statement => some <| statement ++ " query has no target table."
  | noColumns => some "SELECT query has no columns."
  | noValues => some "INSERT query has no values."
  | noAssignments => some "UPDATE query has no assignments."
  | columnDeclared model field =>
    some <| model ++ " already declares column " ++ field.literal ++ "."
  | keyDeclared model key =>
    some <| model ++ " already has primary key " ++ key.literal ++
      "; composite keys are not supported."
  | unregistered model => some <| "Model " ++ model ++ " is not registered."
  | fieldNull field => some <| "Field '" ++ field.display ++ "' must not be None."
  | fieldTooLong field length =>
    some <| "Field '" ++ field.display ++ "' exceeds " ++ length.display ++ " characters."
  | notConnected => some "Adapter is not connected; call connect() first."
  | transactionActive => some "A transaction is already active."
  | nothingToCommit => some "No active transaction to commit."
  | nothingToRollBack => some "No active transaction to roll back."
  | connectionFailed m => some m
  | executionFailed m _ _ => some m
  | columnTypeNotText typeName =>
    some <| "Column type must be SqlType or str, got " ++ typeName ++ "."
  | columnOptionsExpected model field =>
    some <| model ++ "." ++ field ++ " metadata 'column' must be ColumnOptions."
  | paramsNotPositional => some "params must be a positional sequence of values."
  | unsupportedRow typeDisplay => some <| "Unsupported row type: " ++ typeDisplay
  | unknownColumnType given => some <| "Unknown column type " ++ given.literal ++ "."
  | unsupportedStyle style => some <| "Unsupported paramstyle: " ++ style
  | unknownLevel given => some <| "Unknown log level " ++ given.literal ++ "."
  | driverMissing => some <|
    "psycopg is required for PostgresAdapter. " ++
      "Install with \x60pip install rex-orm[postgres]\x60."
  | invalidSettings _ => none
  | fault _ => none
  | raised s => some s.message

end Error

/-- What a check or a computation yields: its result or an error. -/
abbrev Result := Except Error

end RelMap
