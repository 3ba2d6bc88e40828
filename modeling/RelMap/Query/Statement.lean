import RelMap.Dialect
import RelMap.Query.Basic

/-!
# Statements

How a query is written in a dialect.  First the parts of the query are checked against its kind, the
dialect and the columns of its model (`Query.validate`).  Then the statement is put together from
pieces (`Query.pieces`); values are not written but leave holes.  Last the pieces are written one
after the other, and the holes, counted from the left, become the marks of the dialect
(`Piece.write`).  So the parameters are the values of the holes, in the order of their marks.
-/

namespace RelMap

inductive Piece where
  /-- Keywords and punctuation, with the spaces around them. -/
  | fixed (s : String)
  /-- A name in running text. -/
  | name (v : Value)
  /-- A name in a list. -/
  | listed (v : Value)
  | operator (v : Value)
  | number (v : Value)
  | hole (v : Value)
deriving Repr, Inhabited

namespace Piece

def value? : Piece → Option Value
  | hole v => some v
  | _ => none

def holes (ps : List Piece) : List Value := ps.filterMap value?

/-- Writes pieces one after the other; `position` is that of the first hole among them. -/
def write (style : ParamStyle) : (position : Nat) → List Piece → Result String
  | _, [] => .ok ""
  | k, fixed s :: rest => (write style k rest).map (s ++ ·)
  | k, name v :: rest => (write style k rest).map (v.display ++ ·)
  | k, operator v :: rest => (write style k rest).map (v.display ++ ·)
  | k, number v :: rest => (write style k rest).map (v.display ++ ·)
  | k, listed v :: rest =>
    match v.textOf? with
    | some s => (write style k rest).map (s ++ ·)
    | none => .error (.fault .wrongType)
  | k, hole _ :: rest => do
    let mark ← style.mark (toString k)
    (write style (k + 1) rest).map (mark ++ ·)

def separated (separator : String) : List (List Piece) → List Piece
  | [] => []
  | [group] => group
  | group :: rest => group ++ fixed separator :: separated separator rest

def nameList (names : List Value) : List Piece :=
  separated ", " (names.map fun n => [listed n])

def holeList (values : List Value) : List Piece :=
  separated ", " (values.map fun v => [hole v])

end Piece

structure Statement where
  sql : String
  params : List Value
deriving Repr

/-- The pieces of a condition; a condition on the elements of an empty sequence does not mention its
column. -/
def Condition.pieces (c : Condition) : List Piece :=
  if c.isUnary then [.name c.column, .fixed " ", .operator c.operator]
  else match c.values with
    | some [] => [.fixed (if c.hasOperator ["IN"] then "1=0" else "1=1")]
    | some vs =>
      [.name c.column, .fixed " ", .operator c.operator, .fixed " ("] ++
        Piece.holeList vs ++ [.fixed ")"]
    | none => [.name c.column, .fixed " ", .operator c.operator, .fixed " ", .hole c.value]

namespace Query

/-! ## Checks -/

/-- The parts that belong to some kinds of statements only. -/
inductive Part where
  | columns
  | values
  | defaultValues
  | assignments
  | conditions
deriving DecidableEq, Repr

def Part.shown : Part → String
  | columns => "a SELECT projection"
  | values => "insert values"
  | defaultValues => "DEFAULT VALUES"
  | assignments => "update assignments"
  | conditions => "WHERE predicates"

def has (q : Query) : Part → Bool
  | .columns => !q.columns.isEmpty
  | .values => !q.values.isEmpty
  | .defaultValues => q.defaultValues.truthy
  | .assignments => !q.assignments.isEmpty
  | .conditions => !q.conditions.isEmpty

/-- Refuses parts that statements of the query's kind do not have. -/
def forbid (q : Query) (parts : List Part) : Result Unit :=
  match parts.find? q.has with
  | some p => .error (.foreignPart q.kind.display p.shown)
  | none => .ok ()

def forbidPaging (q : Query) : Result Unit :=
  if !q.ordering.isEmpty || !q.limit.isNull || !q.offset.isNull then
    .error (.foreignPaging q.kind.display)
  else .ok ()

/-- Checks that the parts of the query are those of its kind. -/
def validateParts (q : Query) (k : Kind) : Result Unit :=
  match k with
  | .select => do
    if q.columns.isEmpty then .error .noColumns
    q.forbid [.values, .defaultValues, .assignments]
    if q.returning.isEmpty then .ok () else .error .returningOnSelect
  | .insert => do
    if q.values.isEmpty && !q.defaultValues.truthy then .error .noValues
    q.forbid [.columns, .assignments, .conditions]
    q.forbidPaging
  | .update => do
    if q.assignments.isEmpty then .error .noAssignments
    q.forbid [.columns, .values, .defaultValues]
    q.forbidPaging
  | .delete => do
    q.forbid [.columns, .values, .defaultValues, .assignments]
    q.forbidPaging

def mentioned (q : Query) : List Value :=
  q.columns.filter (fun v => v.textOf? ≠ some "*") ++ q.values.map Prod.fst ++
    q.assignments.map Prod.fst ++ q.conditions.map Condition.column ++
    q.ordering.map Ordering.column ++ q.returning

def names (e : Entity) (v : Value) : Bool :=
  match v.textOf? with
  | some s => e.columnNames.contains s
  | none => false

/-- Checks that a value names a column of the entity; it must be of a kind that can be a key. -/
def checkMention (e : Entity) (v : Value) : Result Unit :=
  if names e v then .ok ()
  else if v.mayBeKey then .error (.unknownColumn v e.model.name e.table)
  else .error (.fault .wrongType)

/-- Checks that the columns which the query mentions are columns of its model. -/
def validateColumns (q : Query) (e : Entity) : Result Unit := q.mentioned.forM (checkMention e)

/-- Checks the query before it is written: its kind, its table, its parts, whether the dialect
returns columns, and the columns of its model. -/
def validate (q : Query) (catalog : Catalog) (d : Dialect) : Result Kind := do
  if q.kind.isNull then .error .noStatement
  if q.table.isNull then .error (.noTable q.kind.display)
  match Kind.ofValue? q.kind with
  | none => .error (.unknownStatement q.kind)
  | some k => do
    q.validateParts k
    if !q.returning.isEmpty && !d.returning.truthy then .error (.returningUnsupported d.name)
    match q.model with
    | none => .ok k
    | some m => do
      let e ← catalog.entity m
      q.validateColumns e
      .ok k

/-! ## Pieces -/

def tablePiece (q : Query) : Piece := .name q.table

def wherePieces (q : Query) : List Piece :=
  if q.conditions.isEmpty then []
  else .fixed " WHERE " :: Piece.separated " AND " (q.conditions.map Condition.pieces)

def orderPieces (q : Query) : List Piece :=
  if q.ordering.isEmpty then []
  else .fixed " ORDER BY " :: Piece.separated ", " (q.ordering.map fun o =>
    [.name o.column, .fixed (if o.descending.truthy then " DESC" else " ASC")])

def limitPieces (q : Query) : List Piece :=
  if q.limit.isNull then [] else [.fixed " LIMIT ", .number q.limit]

/-- The offset, behind what the dialect wants in place of a limit that is not set. -/
def offsetPieces (q : Query) (d : Dialect) : List Piece :=
  if q.offset.isNull then []
  else
    (if q.limit.isNull && d.offsetFiller.truthy then [.fixed (" " ++ d.offsetFiller.display)]
      else []) ++
      [.fixed " OFFSET ", .number q.offset]

def selectPieces (q : Query) (d : Dialect) : List Piece :=
  .fixed (if q.distinct.truthy then "SELECT DISTINCT " else "SELECT ") ::
    (Piece.nameList q.columns ++ [.fixed " FROM ", q.tablePiece] ++ q.wherePieces ++
      q.orderPieces ++ q.limitPieces ++ q.offsetPieces d)

def insertPieces (q : Query) : List Piece :=
  if q.defaultValues.truthy then [.fixed "INSERT INTO ", q.tablePiece, .fixed " DEFAULT VALUES"]
  else [.fixed "INSERT INTO ", q.tablePiece, .fixed " ("] ++
    Piece.nameList (q.values.map Prod.fst) ++ [.fixed ") VALUES ("] ++
    Piece.holeList (q.values.map Prod.snd) ++ [.fixed ")"]

def updatePieces (q : Query) : List Piece :=
  [.fixed "UPDATE ", q.tablePiece, .fixed " SET "] ++
    Piece.separated ", " (q.assignments.map fun a =>
      [.name a.1, .fixed " = ", .hole a.2]) ++
    q.wherePieces

def deletePieces (q : Query) : List Piece :=
  [.fixed "DELETE FROM ", q.tablePiece] ++ q.wherePieces

def returningPieces (q : Query) : List Piece :=
  if q.returning.isEmpty then [] else .fixed " RETURNING " :: Piece.nameList q.returning

def pieces (q : Query) (k : Kind) (d : Dialect) : List Piece :=
  (match k with
    | .select => q.selectPieces d
    | .insert => q.insertPieces
    | .update => q.updatePieces
    | .delete => q.deletePieces) ++ q.returningPieces

def build (q : Query) (catalog : Catalog) (d : Dialect := .generic) : Result Statement := do
  let k ← q.validate catalog d
  let ps := q.pieces k d
  let sql ← Piece.write d.style 1 ps
  .ok ⟨sql, Piece.holes ps⟩

end Query

end RelMap
