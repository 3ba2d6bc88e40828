import RelMap.Value.Literal

/-!
# Names

Names of tables and columns are written into statements as they are, so only plain identifiers are
names: one segment, or two joined by a dot, each made of ASCII letters, digits and underscores and
not beginning with a digit.

A name may be given by a labelled constant that passes for text.  It keeps the label, because it is
shown under the label where it is put into running text and by its characters where names are joined
to a list.
-/

namespace RelMap

namespace Identifier

/-- The characters a segment may begin with. -/
def isHead (c : Char) : Bool := c.isAlpha || c = '_'

def isTail (c : Char) : Bool := c.isAlphanum || c = '_'

def isSegment : List Char → Bool
  | [] => false
  | c :: r => isHead c && r.all isTail

/-- One segment, or two joined by a dot. -/
def isIdentifier (s : List Char) : Bool :=
  match s.span (· ≠ '.') with
  | (first, []) => isSegment first
  | (first, _ :: second) => isSegment first && isSegment second

end Identifier

/-- A name: its characters, and its label if a labelled constant was given. -/
structure Name where
  text : String
  label : Option Label := none
deriving DecidableEq, Repr, Inhabited

namespace Name

def plain (s : String) : Name := ⟨s, none⟩

def shown (n : Name) : String :=
  match n.label with
  | some l => l.text
  | none => n.text

def literal (n : Name) : String :=
  match n.label with
  | some l => "<" ++ l.text ++ ": " ++ Text.quote n.text ++ ">"
  | none => Text.quote n.text

def toValue (n : Name) : Value :=
  match n.label with
  | some l => .textConstant l n.text
  | none => .text n.text

/-- The text that a value passes for, as a name. -/
def ofValue? : Value → Option Name
  | .text s => some ⟨s, none⟩
  | .textConstant label s => some ⟨s, some label⟩
  | .sqlType t => some ⟨t.name, some ⟨"SqlType", t.name⟩⟩
  | _ => none

def isIdentifier (n : Name) : Bool := Identifier.isIdentifier n.text.toList

theorem textOf?_toValue (n : Name) : n.toValue.textOf? = some n.text := by
  unfold toValue
  split <;> rfl

theorem display_toValue (n : Name) : n.toValue.display = n.shown := by
  unfold toValue shown
  cases n.label <;> rfl

/-- A value passes for a name exactly if it passes for that name's text. -/
theorem ofValue?_map_text (v : Value) : (ofValue? v).map Name.text = v.textOf? := by
  unfold ofValue? Value.textOf?
  split <;> simp

end Name

end RelMap
