import RelMap.Settings.Target

/-!
# Logging

How the reports of the library are logged: from which level on, and by which processors, in their
order.  The level is given by its name, in any case, or by the settings.
-/

namespace RelMap

/-- What is done with an event before and when it is written. -/
inductive Processor where
  | mergeContext
  | addLevel
  | stampTime
  | renderStack
  | formatException
  | renderJson
  | renderConsole
deriving DecidableEq, Repr

structure LoggingSetup where
  level : Nat
  format : String
  processors : List Processor
  cached : Bool
deriving Repr

namespace LoggingSetup

/-- The names of the levels, in capitals. -/
def levels : List (String × Nat) :=
  [("CRITICAL", 50), ("FATAL", 50), ("ERROR", 40), ("WARNING", 30), ("WARN", 30), ("INFO", 20),
   ("DEBUG", 10), ("NOTSET", 0)]

/-- The level of a name; case does not count.  Bytes can be written in capitals but name nothing,
and other values cannot even be written in capitals. -/
def levelOf (v : Value) : Result Nat :=
  match v.textOf?, v with
  | some s, _ =>
    match levels.find? fun e => e.1.toList == Text.capitals s.toList with
    | some e => .ok e.2
    | none => .error (.unknownLevel v)
  | none, .bytes .view _ => .error (.fault .missingAttribute)
  | none, .bytes _ _ => .error (.fault .wrongType)
  | none, _ => .error (.fault .missingAttribute)

def processorsFor (json : Bool) : List Processor :=
  [.mergeContext, .addLevel, .stampTime, .renderStack] ++
    if json then [.formatException, .renderJson] else [.renderConsole]

/-- The level to go by: the given one, or that of the settings. -/
def chosenLevel (env : Environment) (level : Value) : Result Value :=
  if level.isNull then (Settings.read env []).map fun s => .text s.logLevel else .ok level

def make (env : Environment) (level json : Value) : Result LoggingSetup := do
  let n ← levelOf (← chosenLevel env level)
  .ok {
    level := n
    format := "%(message)s"
    processors := processorsFor json.truthy
    cached := true }

end LoggingSetup

end RelMap
