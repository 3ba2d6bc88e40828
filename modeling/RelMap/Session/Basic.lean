import RelMap.Backend
import RelMap.Driver

/-!
# Sessions

A session is an adapter together with the driver that it works on.  The adapter owns at most one
connection and knows whether a transaction is open on it; the driver answers as its script says.
What the driver was asked and what was reported is kept from the beginning.

A `Run` is a program on a session: it changes the session and yields a value or an error.  A failing
program keeps what it has changed so far.
-/

namespace RelMap

/-- An adapter: its dialect and backend, the number of its connection if it has one, whether a
transaction is open, and how many statements were run. -/
structure Adapter where
  dialect : Dialect
  backend : Backend
  connection : Option Nat := none
  inTransaction : Bool := false
  statements : Nat := 0
deriving Repr

/-- An adapter with the driver that it works on. -/
structure Session where
  adapter : Adapter
  script : Script := {}
  closing : Closing := {}
  calls : List Call := []
  events : List Event := []
deriving Repr

def Run (α : Type) : Type := Session → Result α × Session

namespace Run

variable {α β : Type}

protected def pure (x : α) : Run α := fun s => (.ok x, s)

protected def bind (r : Run α) (f : α → Run β) : Run β := fun s =>
  match r s with
  | (.ok x, s) => f x s
  | (.error e, s) => (.error e, s)

instance : Monad Run where
  pure := Run.pure
  bind := Run.bind

@[simp] theorem pure_apply (x : α) (s : Session) : (pure x : Run α) s = (.ok x, s) := rfl

theorem bind_apply (r : Run α) (f : α → Run β) (s : Session) :
    (r >>= f) s = match r s with
      | (.ok x, s) => f x s
      | (.error e, s) => (.error e, s) := rfl

def fail (e : Error) : Run α := fun s => (.error e, s)

def ofResult (r : Result α) : Run α := fun s => (r, s)

def adapter : Run Adapter := fun s => (.ok s.adapter, s)

def modifyAdapter (f : Adapter → Adapter) : Run Unit := fun s =>
  (.ok (), { s with adapter := f s.adapter })

def call (c : Call) : Run Unit := fun s => (.ok (), { s with calls := s.calls ++ [c] })

def report (e : Event) : Run Unit := fun s => (.ok (), { s with events := s.events ++ [e] })

def check : Option Signal → Run Unit
  | some s => fail (.raised s)
  | none => pure ()

/-- Runs a program and yields its outcome, an error as well as a value. -/
def attempt (r : Run α) : Run (Result α) := fun s =>
  match r s with
  | (x, s) => (.ok x, s)

/-- Runs a program and then, whether or not it failed, another; an error of the second hides the
outcome of the first. -/
def always (r : Run α) (last : Run Unit) : Run α := fun s =>
  match r s with
  | (x, s) =>
    match last s with
    | (.ok (), s) => (x, s)
    | (.error e, s) => (.error e, s)

def onDriverError (r : Run α) (answer : String → Run α) : Run α := fun s =>
  match r s with
  | (.error (.raised (.driver message)), s) => answer message s
  | (x, s) => (x, s)

/-- Runs a program under another script; what is left of the present script is kept for later. -/
def under (script : Script) (r : Run α) : Run α := fun s =>
  match r { s with script := script } with
  | (x, t) => (x, { t with script := s.script })

/-! ## Connections and cursors -/

def openConnection (b : Backend) : Run Nat := fun s =>
  match b.opening with
  | .error e => (.error e, s)
  | .ok (positional, named) =>
    let number := s.calls.length
    match s.script.openError with
    | some signal => (do
        call (.openConnection none positional named)
        fail (.raised signal) : Run Nat) s
    | none => (do
        call (.openConnection (some number) positional named)
        pure number : Run Nat) s

def closeConnection (connection : Nat) : Run Unit := fun s =>
  if s.closing.closes then
    (do call (.closeConnection connection); check s.closing.error : Run Unit) s
  else (.ok (), s)

def nextReply : Run Reply := fun s =>
  match s.script.replies with
  | [] => (.ok {}, s)
  | r :: rest => (.ok r, { s with script := { s.script with replies := rest } })

/-- Asks a connection for a cursor and yields its number with the reply that it follows. -/
def openCursor (connection : Nat) : Run (Nat × Reply) := do
  let reply ← nextReply
  fun s =>
    let number := s.calls.length
    match reply.refused with
    | some signal => (do
        call (.openCursor connection none)
        fail (.raised signal) : Run (Nat × Reply)) s
    | none => (do
        call (.openCursor connection (some number))
        pure (number, reply) : Run (Nat × Reply)) s

def closeCursor (cursor : Nat) (reply : Reply) : Run Unit :=
  if reply.closes then do
    call (.closeCursor cursor)
    check reply.closeError
  else pure ()

/-- Runs a program on a new cursor and closes the cursor in any case. -/
def withCursor (connection : Nat) (body : Nat → Reply → Run α) : Run α := do
  let (cursor, reply) ← openCursor connection
  (body cursor reply).always (closeCursor cursor reply)

end Run

end RelMap
