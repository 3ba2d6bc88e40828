import RelMap.Number.Exact
import RelMap.Number.Integer
import RelMap.Value.Literal

/-!
# Constants

A labelled constant is made from what its author wrote behind its name and from what its enumeration
is mixed with.  In an enumeration of plain constants a member holds what was written; mixed with
text it holds the running text of that, mixed with integers the integer that it is or writes.  A
tuple stands for the arguments of the conversion, so the empty one makes the empty text or zero.
-/

namespace RelMap

/-- What the members of an enumeration pass for, beside themselves. -/
inductive Mixin where
  | none
  | text
  | integer
deriving DecidableEq, Repr

namespace Value

/-- The integer that a value is or writes; a fraction is cut off. -/
def wholePart? : Value → Option Int
  | int n => some n
  | bool b => some (if b then 1 else 0)
  | intConstant _ n => some n
  | real x => x.exact?.map Exact.wholePart
  | decimal d => d.exact?.map Exact.wholePart
  | bytes .view _ => Option.none
  | bytes _ content => IntegerText.ofText? (content.map fun b => Char.ofNat b.toNat)
  | v => v.textOf?.bind fun s => IntegerText.ofText? s.toList

/-- The text that a conversion with these arguments makes; bytes may come with their encoding. -/
def textFrom? : List Value → Option String
  | [] => some ""
  | [v] => some v.display
  | [bytes _ content, _] => String.fromUTF8? ⟨content.toArray⟩
  | _ => Option.none

def integerFrom? : List Value → Option Int
  | [] => some 0
  | [v] => v.wholePart?
  | _ => Option.none

/-- The arguments of a conversion: the elements of a tuple, or the value alone. -/
def conversionArguments : Value → List Value
  | tuple items => items
  | v => [v]

def member? (label : Label) (mixin : Mixin) (written : Value) : Option Value :=
  match mixin with
  | .none => some (constant label written)
  | .text => (textFrom? written.conversionArguments).map (textConstant label)
  | .integer => (integerFrom? written.conversionArguments).map (intConstant label)

end Value

end RelMap
