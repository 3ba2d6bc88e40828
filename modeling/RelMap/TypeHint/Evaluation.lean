import RelMap.TypeHint.Basic
import RelMap.TypeHint.Text

/-!
# Evaluation of type hints

Names are looked up in three places: the types of this library's vocabulary come first, then what
the class itself keeps under its names, then the built-in types.  So a class can hide a built-in
type behind a default of one of its fields; what it then hints at is the default.  A default that is
a text is a hint in its turn, `pending` until the hint it stands in is used, and a text that leads
back to itself stays pending.

Evaluation fails as `unresolved` on a name that is not there and where a type takes no such
arguments, as `notFound` where a hint is looked for in a map, and as `malformed` on a text that is
no expression.
-/

namespace RelMap

/-- Is it a generic type that takes whatever arguments it is given? -/
def Native.takesAnything : Native → Bool
  | .list | .dict | .tuple | .set => true
  | _ => false

namespace TypeHint

/-! ## Putting hints together -/

def ofText (s : String) : Hinted TypeHint :=
  if (TypeText.ofText? s).isSome then .ok (pending s) else .error .malformed

/-- A hint as a member of a union or an argument of a checked generic type: the absent value is its
type, a text is a hint of its own, and tuples and the bare forms of unions are refused. -/
def asMember : TypeHint → Hinted TypeHint
  | nothing => .ok nullType
  | native .optional | native .union => .error .unresolved
  | tuple _ => .error .unresolved
  | value (.tuple _) => .error .unresolved
  | value v =>
    match v.textOf? with
    | some s => ofText s
    | none => .ok (value v)
  | a => .ok a

/-- A hint as an argument of a generic type that takes whatever it is given. -/
def asArgument : TypeHint → TypeHint
  | value v =>
    match v.textOf? with
    | some s => pending s
    | none => value v
  | a => a

def indexItems : TypeHint → List TypeHint
  | tuple items => items
  | a => [a]

def apply (a index : TypeHint) : Hinted TypeHint :=
  match a with
  | native .optional => do unionOf true [← asMember index, nullType]
  | native .union => do unionOf true (← index.indexItems.mapM asMember)
  | native .listOf => do
    match ← index.indexItems.mapM asMember with
    | [x] => .ok (generic .listOf [x])
    | _ => .error .unresolved
  | native .dictOf => do
    match ← index.indexItems.mapM asMember with
    | [x, y] => .ok (generic .dictOf [x, y])
    | _ => .error .unresolved
  | native n =>
    if n.takesAnything then .ok (generic n (index.indexItems.map asArgument))
    else .error .unresolved
  | value (.map _) => .error .notFound
  | _ => .error .unresolved

def joinsAll : TypeHint → Bool
  | native .listOf | native .dictOf | native .optional | native .union => true
  | generic .listOf _ | generic .dictOf _ => true
  | union isOpen _ => isOpen
  | pending _ => true
  | _ => false

def joinsTypes : TypeHint → Bool
  | tuple _ | value _ | pending _ => false
  | a => !a.joinsAll

/-- Two alternatives.  Two absent values have no type between them. -/
def either (a b : TypeHint) : Hinted TypeHint :=
  if a.joinsAll || b.joinsAll then do unionOf true [← asMember a, ← asMember b]
  else match a, b with
    | nothing, nothing => .error .unresolved
    | value v, value w =>
      if v.intOf?.isSome && w.intOf?.isSome then .ok (value v) else .error .unresolved
    | a, b =>
      if a.joinsTypes && b.joinsTypes then do unionOf false [← asMember a, ← asMember b]
      else .error .unresolved

/-- What signs of arithmetic make of two operands: a number of two numbers, and which one does not
matter to a hint. -/
def combine : TypeHint → TypeHint → Hinted TypeHint
  | value v, value w =>
    if v.intOf?.isSome && w.intOf?.isSome then .ok (value v) else .error .unresolved
  | _, _ => .error .unresolved

/-! ## Names -/

def vocabulary : List (String × Native) :=
  [("Any", .any), ("datetime", .instant), ("date", .day), ("time", .time), ("Decimal", .decimal),
   ("List", .listOf), ("Dict", .dictOf), ("Optional", .optional), ("Union", .union)]

def builtins : List (String × Native) :=
  [("int", .int), ("float", .float), ("str", .str), ("bool", .bool), ("bytes", .bytes),
   ("bytearray", .byteArray), ("memoryview", .byteView), ("list", .list), ("dict", .dict),
   ("tuple", .tuple), ("set", .set), ("object", .object)]

def among? {α : Type} (pairs : List (String × α)) (s : String) : Option α :=
  (pairs.find? fun e => e.1 == s).map Prod.snd

/-- What a name means to a class that keeps some values under names. -/
def lookUp (attributes : List (String × Value)) (s : String) : Hinted TypeHint :=
  if s = "None" then .ok nothing
  else if s = "True" then .ok (value (.bool true))
  else if s = "False" then .ok (value (.bool false))
  else match among? vocabulary s, among? attributes s, among? builtins s with
    | some n, _, _ => .ok (native n)
    | none, some v, _ => .ok (ofValue v)
    | none, none, some n => .ok (native n)
    | none, none, none => .error .unresolved

end TypeHint

namespace TypeText

open TypeHint

mutual

def evaluate (attributes : List (String × Value)) : TypeText → Hinted TypeHint
  | name s => lookUp attributes s
  | number n => .ok (.value (.int n))
  | quoted s => .ok (.value (.text s))
  | applied head index => do
    let a ← evaluate attributes head
    let i ← evaluate attributes index
    a.apply i
  | either a b => do
    let x ← evaluate attributes a
    let y ← evaluate attributes b
    x.either y
  | joined a b => do
    let x ← evaluate attributes a
    let y ← evaluate attributes b
    x.combine y
  | several items => do
    let xs ← evaluateAll attributes items
    .ok (.tuple xs)

def evaluateAll (attributes : List (String × Value)) : List TypeText → Hinted (List TypeHint)
  | [] => .ok []
  | a :: rest => do
    let x ← evaluate attributes a
    let xs ← evaluateAll attributes rest
    .ok (x :: xs)

end

end TypeText

namespace TypeHint

/-! ## Pending texts -/

mutual

/-- The hint with what `f` makes of the pending texts in it. -/
def resolveWith (f : String → Hinted TypeHint) : TypeHint → Hinted TypeHint
  | pending s => f s
  | generic n as => do
    let as ← resolveAllWith f as
    .ok (generic n as)
  | union isOpen ms => do
    let ms ← resolveAllWith f ms
    unionOf isOpen ms
  | a => .ok a

/-- The hints with what `f` makes of the pending texts in them. -/
def resolveAllWith (f : String → Hinted TypeHint) : List TypeHint → Hinted (List TypeHint)
  | [] => .ok []
  | a :: rest => do
    let x ← resolveWith f a
    let xs ← resolveAllWith f rest
    .ok (x :: xs)

end

/-- The hint that a text writes, with the texts that it leads to; `fuel` bounds how far they lead,
and `seen` are the texts on the way here. -/
def resolveText (attributes : List (String × Value)) :
    (fuel : Nat) → (seen : List String) → String → Hinted TypeHint
  | 0, _, s => .ok (pending s)
  | fuel + 1, seen, s =>
    if seen.contains s then .ok (pending s)
    else match TypeText.ofText? s with
      | none => .error .malformed
      | some t => do
        let a ← asMember (← t.evaluate attributes)
        a.resolveWith (resolveText attributes fuel (s :: seen))

/-- The hint that a text writes in a class that keeps some values under names.  Each step leads to
another text among these values, so there are no more steps than values. -/
def ofTextIn (attributes : List (String × Value)) (s : String) : Hinted TypeHint :=
  resolveText attributes (attributes.length + 2) [] s

def ofExpression? (s : String) : Option TypeHint :=
  (TypeText.ofText? s).bind fun t => (t.evaluate []).toOption

end TypeHint

end RelMap
