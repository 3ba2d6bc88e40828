import RelMap.Backend
import RelMap.Settings.Check
import RelMap.Text.Case

/-!
# Settings

The settings of a database connection.  A value that the program gives wins over one of the
environment, where the name of a setting stands behind a common beginning; the case of names does
not count, and what neither gives has a default.  All settings are checked, and if some are wrong
they are all reported, in the order of their names.
-/

namespace RelMap

inductive Engine where
  | sqlite
  | postgres
deriving DecidableEq, Repr

namespace Engine

def name : Engine → String
  | sqlite => "sqlite"
  | postgres => "postgres"

def check (v : Value) : Checked Engine :=
  match v.textOf? with
  | some "sqlite" => .ok sqlite
  | some "postgres" => .ok postgres
  | _ => .error .notAmongChoices

end Engine

/-- The settings of a connection; the fields stand in the order of the names of the settings. -/
structure Settings where
  backend : Engine
  connectTimeout : Value
  database : Option String
  host : String
  logLevel : String
  password : Option String
  path : String
  port : Value
  tls : Bool
  user : Option String
deriving Repr

/-- Values that are given under names by the environment, as text. -/
abbrev Environment := List (String × String)

namespace Settings

def environmentStem : String := "rex_orm_"

def fromEnvironment? (env : Environment) (setting : String) : Option Value :=
  (env.reverse.find? fun e => Text.lower e.1 == environmentStem ++ setting).map fun e => .text e.2

def fromProgram? (init : Arguments) (setting : String) : Option Value :=
  (init.reverse.find? fun e => Text.lower e.1 == setting).map Prod.snd

def given? (env : Environment) (init : Arguments) (setting : String) : Option Value :=
  (fromProgram? init setting).or (fromEnvironment? env setting)

/-- Faults of settings, each with the name of the setting. -/
abbrev Faults := List (String × SettingFault)

/-- A function that was checked, applied to an argument that was checked; the faults of both are
kept. -/
def collect {α β : Type} (f : Except Faults (α → β)) (x : Except Faults α) : Except Faults β :=
  match f, x with
  | .ok f, .ok x => .ok (f x)
  | .ok _, .error b => .error b
  | .error a, .ok _ => .error a
  | .error a, .error b => .error (a ++ b)

/-- Checks one setting; the default stands if nothing is given. -/
def setting {α : Type} (env : Environment) (init : Arguments) (name : String)
    (check : Value → Checked α) (default : α) : Except Faults α :=
  match given? env init name with
  | none => .ok default
  | some v =>
    match check v with
    | .ok x => .ok x
    | .error f => .error [(name, f)]

/-- Checks all settings, whatever converts their values. -/
def checkWith (c : Conversion) (env : Environment) (init : Arguments) : Except Faults Settings :=
  let next {α β : Type} (f : Except Faults (α → β)) (name : String) (check : Value → Checked α)
      (default : α) : Except Faults β := collect f (setting env init name check default)
  let s := .ok Settings.mk
  let s := next s "backend" Engine.check .sqlite
  let s := next s "connect_timeout" (Value.checkNullable (Value.checkBetween c.integer 0 none))
    .null
  let s := next s "database" (Value.checkOptional c.text) none
  let s := next s "host" c.text "localhost"
  let s := next s "log_level" c.text "INFO"
  let s := next s "password" (Value.checkOptional (Value.checkSecret c.text)) none
  let s := next s "path" c.text ":memory:"
  let s := next s "port" (Value.checkBetween c.integer 1 (some 65535)) (.int 5432)
  let s := next s "tls" c.truth false
  next s "user" (Value.checkOptional c.text) none

def check (env : Environment) (init : Arguments) : Except Faults Settings :=
  checkWith .standard env init

end Settings

end RelMap
