import RelMap.Value
import RelMap.Text.Quoted

/-!
# Values in messages

A value is shown in two ways.  `Value.literal` is the unmistakable form that messages quote: text
between quotes, lists in brackets, constructor calls for numbers and days.  `Value.display` is the
form a value takes when it is put into running text: text as it is, everything else much as its
literal.
-/

namespace RelMap

namespace Label

/-- A label in full: the enumeration and the member. -/
def text (l : Label) : String := l.family ++ "." ++ l.name

end Label

namespace Value

open Text

/-- Several texts between two brackets, separated by commas. -/
def enclosed (left right : String) (parts : List String) : String :=
  left ++ ", ".intercalate parts ++ right

/-- A pair of parentheses around some texts; a comma follows a text that stands alone. -/
def tupled : List String → String
  | [x] => "(" ++ x ++ ",)"
  | xs => enclosed "(" ")" xs

mutual

def literal : Value → String
  | null => "None"
  | bool b => if b then "True" else "False"
  | int n => toString n
  | real x => x.text
  | text s => quote s
  | bytes .bytes content => quoteBytes content
  | bytes .array content => "bytearray(" ++ quoteByteArray content ++ ")"
  | bytes .view _ => "<memory>"
  | decimal d => "Decimal('" ++ d.text ++ "')"
  | moment m => m.literal
  | list items => enclosed "[" "]" (literals items)
  | tuple items => tupled (literals items)
  | set [] => "set()"
  | set items => enclosed "\x7b" "\x7d" (literals items)
  | range stop => "range(0, " ++ toString stop ++ ")"
  | map entries => enclosed "\x7b" "\x7d" (entryLiterals entries)
  | constant label held => "<" ++ label.text ++ ": " ++ literal held ++ ">"
  | textConstant label s => "<" ++ label.text ++ ": " ++ quote s ++ ">"
  | intConstant label n => "<" ++ label.text ++ ": " ++ toString n ++ ">"
  | sqlType t => "<SqlType." ++ t.name ++ ": " ++ quote t.name ++ ">"
  | record model fields => model.name ++ enclosed "(" ")" (fieldLiterals fields)
  | foreign typeName => "<" ++ typeName ++ ">"

def literals : List Value → List String
  | [] => []
  | v :: vs => literal v :: literals vs

/-- The entries of a map, each key before its value. -/
def entryLiterals : List (Value × Value) → List String
  | [] => []
  | (k, v) :: rest => (literal k ++ ": " ++ literal v) :: entryLiterals rest

/-- The fields of a record, each name before its value. -/
def fieldLiterals : List (String × Value) → List String
  | [] => []
  | (name, v) :: rest => (name ++ "=" ++ literal v) :: fieldLiterals rest

end

def display : Value → String
  | text s => s
  | decimal d => d.text
  | moment (.instant d t z) => String.ofList (d.iso ++ ' ' :: (t.iso ++ zoneIso z))
  | moment m => m.iso
  | constant label _ => label.text
  | textConstant label _ => label.text
  | intConstant label _ => label.text
  | sqlType t => "SqlType." ++ t.name
  | v => v.literal

def typeDisplay : Value → String
  | decimal _ => "<class 'decimal.Decimal'>"
  | moment m => "<class 'datetime." ++ (moment m).typeName ++ "'>"
  | constant label _ => "<enum '" ++ label.family ++ "'>"
  | textConstant label _ => "<enum '" ++ label.family ++ "'>"
  | intConstant label _ => "<enum '" ++ label.family ++ "'>"
  | sqlType _ => "<enum 'SqlType'>"
  | record model _ => "<class '__main__." ++ model.name ++ "'>"
  | foreign typeName => "<class '__main__." ++ typeName ++ "'>"
  | v => "<class '" ++ v.typeName ++ "'>"

end Value

end RelMap
