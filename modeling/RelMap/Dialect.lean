import RelMap.Arguments
import RelMap.Parameter

/-!
# Dialects

A dialect says how statements are written for one kind of database: the marks that stand for
parameters, whether a statement may return columns, what stands in for a missing limit, and the
names of column types.  What the author of a dialect sets is kept as it was given.
-/

namespace RelMap

inductive ParamStyle where
  | question
  | format
  | numbered
  | other (given : Value)
deriving Repr

namespace ParamStyle

def toValue : ParamStyle → Value
  | question => .text "qmark"
  | format => .text "format"
  | numbered => .text "numeric"
  | other given => given

def ofValue (v : Value) : ParamStyle :=
  match v.textOf? with
  | some "qmark" => question
  | some "format" => format
  | some "numeric" => numbered
  | _ => other v

/-- The mark of the parameter at a position, which is written in decimal. -/
def mark (style : ParamStyle) (position : String) : Result String :=
  match style with
  | question => .ok "?"
  | format => .ok "%s"
  | numbered => .ok ("$" ++ position)
  | other given => .error (.unsupportedStyle given.display)

end ParamStyle

structure Dialect where
  name : Value
  style : ParamStyle
  /-- May a statement return columns?  It may if this counts as true. -/
  returning : Value
  /-- What stands in for the limit where there is an offset alone; nothing if it counts as false. -/
  offsetFiller : Value
  /-- Names of column types where they differ from the standard ones. -/
  typeNames : List (SqlType × String)
  /-- The type of a key that the database numbers by itself. -/
  serialType : String
  /-- Are truth values bound as 0 and 1? -/
  boolAsInt : Bool
deriving Repr

namespace Dialect

def generic : Dialect where
  name := .text "generic"
  style := .question
  returning := .bool false
  offsetFiller := .text ""
  typeNames := []
  serialType := "INTEGER"
  boolAsInt := false

def sqlite : Dialect :=
  { generic with
    name := .text "sqlite", returning := .bool true, offsetFiller := .text "LIMIT -1"
    boolAsInt := true }

def postgres : Dialect :=
  { generic with
    name := .text "postgres", style := .format, returning := .bool true
    typeNames := [(.real, "DOUBLE PRECISION"), (.blob, "BYTEA")]
    serialType := "SERIAL" }

def postgresNumbered : Dialect :=
  { postgres with name := .text "postgres-numeric", style := .numbered }

def builtin : List Dialect := [generic, sqlite, postgres, postgresNumbered]

/-- A dialect that assumes least but for what some named arguments set. -/
def ofArguments (arguments : Arguments) : Dialect :=
  { generic with
    name := arguments.getD "name" generic.name
    style := .ofValue (arguments.getD "paramstyle" generic.style.toValue)
    returning := arguments.getD "supports_returning" generic.returning
    offsetFiller := arguments.getD "offset_without_limit" generic.offsetFiller }

def adapt (d : Dialect) : Value → Value
  | .bool b => if d.boolAsInt then .int (if b then 1 else 0) else .bool b
  | v => v

/-- The name of a column type that needs no length. -/
def typeName (d : Dialect) (t : SqlType) : String :=
  match d.typeNames.find? fun e => e.1 = t with
  | some e => e.2
  | none => t.name

/-- The definition of a key column that the database numbers by itself. -/
def serialKey (d : Dialect) (column : String) : String :=
  column ++ " " ++ d.serialType ++ " PRIMARY KEY"

/-- What a dialect of the library has in place of a missing limit, if it has anything. -/
theorem display_offsetFiller {d : Dialect} (hd : d ∈ builtin)
    (h : d.offsetFiller.truthy = true) : d.offsetFiller.display = "LIMIT -1" := by
  simp only [builtin, List.mem_cons, List.not_mem_nil, or_false] at hd
  rcases hd with rfl | rfl | rfl | rfl
  · cases h
  · rfl
  · cases h
  · cases h

theorem isParameter_adapt (d : Dialect) {v : Value} (h : v.isParameter = true) :
    (d.adapt v).isParameter = true := by
  unfold adapt
  split
  · split <;> rfl
  · exact h

end Dialect

end RelMap
