import RelMap.Session.Basic
import RelMap.Settings.Basic

/-!
# Adapters from settings

A target says what an adapter is made for: the values of the settings, any of which may have been
replaced without a check.
-/

namespace RelMap

namespace Settings

/-- Reads settings, whatever converts their values; their faults are one error. -/
def readWith (c : Conversion) (env : Environment) (init : Arguments) : Result Settings :=
  match checkWith c env init with
  | .ok s => .ok s
  | .error faults => .error (.invalidSettings faults)

def read (env : Environment) (init : Arguments) : Result Settings := readWith .standard env init

end Settings

/-- A password: none, one that was checked and is kept secret, or a value that was put in its place
unchecked. -/
inductive Password where
  | absent
  | secret (s : String)
  | unchecked (v : Value)
deriving Repr

/-- The password as it is handed to the driver; an empty one counts as none.  A value that was not
checked is not a secret that could be revealed. -/
def Password.reveal : Password → Result Value
  | absent => .ok .null
  | secret s => .ok (if s = "" then .null else .text s)
  | unchecked v => if v.truthy then .error (.fault .missingAttribute) else .ok .null

structure Target where
  backend : Value
  path : Value
  host : Value
  port : Value
  user : Value
  password : Password
  database : Value
  tls : Value
  connectTimeout : Value
deriving Repr

def Value.ofOption {α : Type} (f : α → Value) : Option α → Value
  | some x => f x
  | none => .null

namespace Target

def ofSettings (s : Settings) : Target where
  backend := .text s.backend.name
  path := .text s.path
  host := .text s.host
  port := s.port
  user := .ofOption .text s.user
  password := match s.password with
    | some p => .secret p
    | none => .absent
  database := .ofOption .text s.database
  tls := .bool s.tls
  connectTimeout := s.connectTimeout

/-- The target with some values replaced; names of no setting are passed over. -/
def override (t : Target) (os : Arguments) : Target where
  backend := os.getD "backend" t.backend
  path := os.getD "path" t.path
  host := os.getD "host" t.host
  port := os.getD "port" t.port
  user := os.getD "user" t.user
  password := match os.get? "password" with
    | some v => .unchecked v
    | none => t.password
  database := os.getD "database" t.database
  tls := os.getD "tls" t.tls
  connectTimeout := os.getD "connect_timeout" t.connectTimeout

def server (t : Target) : Result Server := do
  let password ← t.password.reveal
  .ok {
    host := t.host, port := t.port, user := t.user, password, database := t.database
    tls := t.tls, connectTimeout := t.connectTimeout }

/-- What a target connects to; everything but a server is an embedded database.  A server needs a
driver that may not be installed. -/
def connectsTo (t : Target) (driverInstalled : Bool) : Result Backend :=
  if t.backend.textOf? = some Engine.postgres.name then do
    let s ← t.server
    if driverInstalled then .ok (.server s) else .error .driverMissing
  else .ok (.embedded { path := t.path })

end Target

def Adapter.ofBackend (b : Backend) : Adapter where
  dialect := b.dialect
  backend := b

/-- The adapter for the given settings, or for those of the environment, with some values replaced:
values over given settings are not checked, values over the environment are. -/
def createAdapter (env : Environment) (settings : Option Settings) (overrides : Arguments)
    (driverInstalled : Bool) : Result Adapter := do
  let target ← match settings with
    | some s => .ok ((Target.ofSettings s).override overrides)
    | none => (Settings.read env overrides).map Target.ofSettings
  (target.connectsTo driverInstalled).map .ofBackend

end RelMap
