import RelMap.Value.Key

/-!
# Type hints

A type hint says of which type a field is.  It is a native type, a generic type applied to
arguments, or a union of types; the absence of a value is a type of its own, which makes a union
optional.  A hint may also come out as a value that is no type at all.

Unions are kept flat and without repetitions: `TypeHint.unionOf` puts the members of unions in their
place and leaves a single member as it is.
-/

namespace RelMap

/-- The native types, with the generic ones and the two forms of unions where they stand alone. -/
inductive Native where
  | int
  | float
  | str
  | bool
  | bytes
  | byteArray
  | byteView
  | list
  | dict
  | tuple
  | set
  | object
  | any
  | instant
  | day
  | time
  | decimal
  | listOf
  | dictOf
  | optional
  | union
deriving DecidableEq, Repr

/-- Why a hint cannot be evaluated: it names something that is not there or applies something that
cannot be applied, it looks for something in a map in vain, or it is no expression. -/
inductive HintFault where
  | unresolved
  | notFound
  | malformed
deriving DecidableEq, Repr

abbrev Hinted (α : Type) := Except HintFault α

/-- What a hint says once it has been evaluated. -/
inductive TypeHint where
  /-- The absent value itself, which only some generic types keep among their arguments; elsewhere
  it becomes `nullType`. -/
  | nothing
  | nullType
  | native (n : Native)
  | generic (n : Native) (arguments : List TypeHint)
  /-- A union; an open one takes every further member, a closed one only types. -/
  | union (isOpen : Bool) (members : List TypeHint)
  | tuple (items : List TypeHint)
  | value (v : Value)
  /-- A text that is to be evaluated where the hint is used. -/
  | pending (s : String)
deriving Repr, Inhabited

namespace TypeHint

def ofValue : Value → TypeHint
  | .null => nothing
  | .tuple items => tuple (items.map fun v => if v.isNull then nothing else value v)
  | v => value v

mutual

/-- Are two hints the same type?  The order of a union's members does not count. -/
def same : TypeHint → TypeHint → Bool
  | nothing, nothing => true
  | nullType, nullType => true
  | native m, native n => m = n
  | generic m xs, generic n ys => m = n && sameAll xs ys
  | union _ xs, union _ ys => xs.length = ys.length && allAmong xs ys
  | tuple xs, tuple ys => sameAll xs ys
  | value v, value w => v.sameKey w
  | pending s, pending t => s = t
  | _, _ => false

/-- Are two lists of hints the same, one by one? -/
def sameAll : List TypeHint → List TypeHint → Bool
  | [], [] => true
  | x :: xs, y :: ys => same x y && sameAll xs ys
  | _, _ => false

/-- Is each of some hints the same as one of others? -/
def allAmong : List TypeHint → List TypeHint → Bool
  | [], _ => true
  | x :: xs, ys => ys.any (same x) && allAmong xs ys

end

def members : TypeHint → List TypeHint
  | union _ ms => ms
  | a => [a]

/-- A list without the hints that are the same as an earlier one. -/
def distinct (earlier : List TypeHint) : List TypeHint → List TypeHint
  | [] => []
  | a :: rest =>
    if earlier.any (same a) then distinct earlier rest else a :: distinct (earlier ++ [a]) rest

/-- The union of some members; a single member is itself, and without members there is none. -/
def unionOf (isOpen : Bool) (ms : List TypeHint) : Hinted TypeHint :=
  match distinct [] (ms.flatMap members) with
  | [] => .error .unresolved
  | [a] => .ok a
  | ms => .ok (union isOpen ms)

/-- The arguments of a generic type or the members of a union. -/
def arguments : TypeHint → List TypeHint
  | generic _ as => as
  | union _ ms => ms
  | _ => []

def isNullType : TypeHint → Bool
  | nullType => true
  | _ => false

end TypeHint

end RelMap
