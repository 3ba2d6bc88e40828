import RelMap.Arguments
import RelMap.Dialect
import RelMap.Event

/-!
# Backends

A backend says with which arguments a connection is opened and by which details it is described in
reports.  User names, passwords and further options are never among the details.
-/

namespace RelMap

/-- An embedded database: a file, or memory. -/
structure Embedded where
  path : Value := .text ":memory:"
  timeout : Value := .real (.finite false 5 0)
  options : Arguments := []
deriving Repr

structure Server where
  host : Value := .text "localhost"
  port : Value := .int 5432
  user : Value := .null
  password : Value := .null
  database : Value := .null
  tls : Value := .bool false
  connectTimeout : Value := .null
  options : Arguments := []
deriving Repr

inductive Backend where
  | generic
  | embedded (e : Embedded)
  | server (s : Server)
deriving Repr

namespace Embedded

/-- The embedded database that some options describe; what they do not name goes to the driver. -/
def ofArguments (as : Arguments) : Embedded :=
  let d : Embedded := {}
  { path := as.getD "path" d.path
    timeout := as.getD "timeout" d.timeout
    options := as.without ["path", "timeout"] }

def arguments (e : Embedded) : Arguments :=
  ("timeout", e.timeout) :: ("isolation_level", .null) :: e.options

end Embedded

namespace Server

/-- The server that some options describe; what they do not name goes to the driver. -/
def ofArguments (as : Arguments) : Server :=
  let d : Server := {}
  { host := as.getD "host" d.host
    port := as.getD "port" d.port
    user := as.getD "user" d.user
    password := as.getD "password" d.password
    database := as.getD "database" d.database
    tls := as.getD "tls" d.tls
    connectTimeout := as.getD "connect_timeout" d.connectTimeout
    options := as.without
      ["host", "port", "user", "password", "database", "tls", "connect_timeout"] }

/-- An argument that is left out if its value is absent. -/
def given (name : String) (v : Value) : Arguments := if v.isNull then [] else [(name, v)]

/-- The parameters of the connection; further options win over the named ones. -/
def parameters (s : Server) : Arguments :=
  Arguments.update
    ([("host", s.host), ("port", s.port)] ++ given "user" s.user ++ given "password" s.password ++
      given "dbname" s.database ++
      (if s.tls.truthy then [("sslmode", .text "require")] else []) ++
      given "connect_timeout" s.connectTimeout)
    s.options

def arguments (s : Server) : Arguments := ("autocommit", .bool true) :: s.parameters

end Server

namespace Backend

/-- The dialect of a backend unless another is given. -/
def dialect : Backend → Dialect
  | generic => .generic
  | embedded _ => .sqlite
  | server _ => .postgres

/-- The arguments with which a connection is opened; an option must not repeat an argument that is
always passed. -/
def opening : Backend → Result (List Value × Arguments)
  | generic => .ok ([], [])
  | embedded e =>
    if e.options.has "isolation_level" then .error (.fault .wrongType)
    else .ok ([e.path], e.arguments)
  | server s =>
    if s.parameters.has "autocommit" then .error (.fault .wrongType)
    else .ok ([], s.arguments)

def describe (b : Backend) (d : Dialect) : Details :=
  ("dialect", d.name) ::
    match b with
    | generic => []
    | embedded e => [("path", e.path)]
    | server s => [("host", s.host), ("port", s.port), ("database", s.database)]

end Backend

end RelMap
