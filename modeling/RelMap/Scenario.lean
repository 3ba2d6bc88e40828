import RelMap.Persistence.Operations

/-!
# Scenarios

A scenario is a list of steps on one session.  A step is an action, or a block: a transaction or the
lifetime of a connection around further steps.  Each step has a script of its own for the driver; a
block follows its script where it begins and ends, and the steps in it follow theirs.

A step that fails ends the block it stands in, unless its failure is caught; it never ends the
scenario.  `Step.run` reports of each step its outcome, what the driver was asked and what was
reported, and the state that the step left the adapter in.
-/

namespace RelMap

/-- What can be done with a session and with named instances. -/
inductive Action where
  | connect
  | disconnect
  | beginTransaction
  | commit
  | rollback
  | execute (sql : String) (params : Value)
  | executeMany (sql : String) (sets : Value)
  | raise (s : Signal)
  | create (name : String) (m : ModelId) (arguments : Row)
  | assign (name field : String) (v : Value)
  | inspect (name : String)
  | save (name : String)
  | delete (name : String)
  | validate (name : String)
  | columnValues (name : String)
  | get (m : ModelId) (key : Value) (name : Option String)
  | all (m : ModelId)
  | load (m : ModelId) (r : Row) (name : Option String)
  | metadata (m : ModelId)
  | query (calls : List BuilderCall)
  | applySchema (models : List ModelTerm) (ifAbsent : Bool)
deriving Repr, Inhabited

inductive Answer where
  | nothing
  /-- A block hands out the adapter it was opened with. -/
  | adapter
  | count (n : Nat)
  | result (r : QueryResult)
  | object (v : Value)
  | objects (vs : List Value)
  | saved (v : Value)
  | values (pairs : List (Name × Value))
  | entity (e : Entity)
  | statements (sqls : List String)
deriving Repr

/-- An answer, and an instance to be kept under a name. -/
structure Outcome where
  answer : Answer := .nothing
  kept : Option (String × Instance) := none
deriving Repr

/-- A model catalog, a session and the instances that have names. -/
structure Workspace where
  catalog : Catalog
  session : Session
  instances : List (String × Instance) := []
deriving Repr

namespace Action

def named (instances : List (String × Instance)) (name : String) : Run Instance :=
  match getPair? name instances with
  | some i => pure i
  | none => Run.fail (.fault .missingKey)

/-- The outcome of making an instance, which is kept if it has a name. -/
def made (catalog : Catalog) (name : Option String) (i : Instance) : Run Outcome := do
  let v ← .ofResult (catalog.recordOf i)
  return { answer := .object v, kept := name.map fun n => (n, i) }

def silent (r : Run Unit) : Run Outcome := do
  r
  return {}

def run (catalog : Catalog) (instances : List (String × Instance)) : Action → Run Outcome
  | connect => silent Run.connect
  | disconnect => silent Run.disconnect
  | beginTransaction => silent Run.beginTransaction
  | commit => silent Run.commit
  | rollback => silent Run.rollback
  | execute sql params => do return { answer := .result (← Run.execute sql params) }
  | executeMany sql sets => do return { answer := .result (← Run.executeMany sql sets) }
  | raise s => Run.fail (.raised s)
  | create name m arguments => do
    made catalog (some name) (← .ofResult (catalog.make m arguments))
  | assign name field v => do made catalog (some name) ((← named instances name).set field v)
  | inspect name => do made catalog none (← named instances name)
  | save name => do
    let i ← catalog.save (← named instances name)
    return { answer := .saved (← .ofResult (catalog.recordOf i)), kept := some (name, i) }
  | delete name => do return { answer := .count (← catalog.delete (← named instances name)) }
  | validate name => do
    let i ← named instances name
    silent (.ofResult (catalog.selfCheck i))
  | columnValues name => do
    let i ← named instances name
    return { answer := .values (← .ofResult (catalog.dictionary i)) }
  | get m key name => do
    match ← catalog.get m key with
    | some i => made catalog name i
    | none => return { answer := .object .null }
  | all m => do
    let vs ← .ofResult ((← catalog.all m).mapM catalog.recordOf)
    return { answer := .objects vs }
  | load m r name => do made catalog name (← .ofResult (catalog.load m r))
  | metadata m => do return { answer := .entity (← .ofResult (catalog.metadata m)) }
  | query calls => do
    let q ← .ofResult (Query.runCalls catalog {} calls)
    return { answer := .result (← q.execute catalog) }
  | applySchema models ifAbsent => do
    let models ← .ofResult (models.mapM (ModelTerm.evaluate catalog))
    let sqls ← catalog.applySchema (models.map ModelArgument.modelId) ifAbsent
    return { answer := .statements sqls }

end Action

inductive Block where
  | transaction
  | context
deriving DecidableEq, Repr

namespace Block

def enter : Block → Run Unit
  | transaction => Run.beginTransaction
  | context => Run.connect

/-- The program that leaves a block after the outcome of its steps. -/
def leave (outcome : Result Unit) : Block → Run Unit
  | transaction => Run.leaveTransaction outcome
  | context => Run.leaveContext outcome

end Block

/-- A step of a scenario.  The failure of a caught step does not end the block it stands in. -/
inductive Step where
  | act (script : Script) (caught : Bool) (action : Action)
  | block (script : Script) (caught : Bool) (kind : Block) (body : List Step)
deriving Inhabited

def Step.caught : Step → Bool
  | act _ c _ => c
  | block _ c _ _ => c

structure Report where
  result : Result Answer
  calls : List Call
  events : List Event
  connected : Bool
  inTransaction : Bool
  statements : Nat
  /-- The reports of the steps in a block, as far as they ran. -/
  body : Option (List Report)

namespace Workspace

/-- Keeps the instance of an outcome, if there is one. -/
def keep (w : Workspace) : Option (String × Instance) → Workspace
  | some (name, i) => { w with instances := putPair name i w.instances }
  | none => w

def act (w : Workspace) (script : Script) (a : Action) : Result Answer × Workspace :=
  match (a.run w.catalog w.instances).under script w.session with
  | (.ok o, s) => (.ok o.answer, { w with session := s }.keep o.kept)
  | (.error e, s) => (.error e, { w with session := s })

end Workspace

namespace Session

def callsSince (s earlier : Session) : List Call := s.calls.drop earlier.calls.length

def eventsSince (s earlier : Session) : List Event := s.events.drop earlier.events.length

def withScript (s : Session) (script : Script) : Session := { s with script := script }

end Session

/-- The report of a step that left the session in a state. -/
def Report.of (result : Result Answer) (calls : List Call) (events : List Event) (s : Session)
    (body : Option (List Report)) : Report where
  result := result
  calls := calls
  events := events
  connected := s.adapter.connection.isSome
  inTransaction := s.adapter.inTransaction
  statements := s.adapter.statements
  body := body

mutual

def Step.run : Step → Workspace → Report × Workspace
  | .act script _ a, w =>
    let (result, w') := w.act script a
    (.of result (w'.session.callsSince w.session) (w'.session.eventsSince w.session) w'.session
      none, w')
  | .block script _ kind body, w =>
    let before := w.session.withScript script
    match kind.enter before with
    | (.error e, s) =>
      (.of (.error e) (s.callsSince before) (s.eventsSince before) s (some []),
        { w with session := s.withScript w.session.script })
    | (.ok (), entered) =>
      let (reports, outcome, w') := Step.runBody body { w with session := entered }
      let (left, s) := kind.leave outcome w'.session
      (.of (left.map fun _ => .adapter)
          (entered.callsSince before ++ s.callsSince w'.session)
          (entered.eventsSince before ++ s.eventsSince w'.session) s (some reports),
        { w' with session := s.withScript w.session.script })

/-- Runs the steps of a block up to the first failure that is not caught, which is the outcome. -/
def Step.runBody : List Step → Workspace → List Report × Result Unit × Workspace
  | [], w => ([], .ok (), w)
  | step :: rest, w =>
    let (report, w) := step.run w
    match report.result, step.caught with
    | .error e, false => ([report], .error e, w)
    | _, _ =>
      let (reports, outcome, w) := Step.runBody rest w
      (report :: reports, outcome, w)

end

def runScenario : List Step → Workspace → List Report
  | [], _ => []
  | step :: rest, w =>
    let (report, w) := step.run w
    report :: runScenario rest w

end RelMap
