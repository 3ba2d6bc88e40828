import RelMap.Arguments
import RelMap.Parameter
import RelMap.Text.Blank
import RelMap.Text.Case

/-!
# Conditions

A condition compares a column with nothing (`IS NULL`), with one value (`=`) or with several (`IN`).
`Condition.make` checks the column and the operator, whose spelling may differ in case and spacing,
and brings the values into the form of parameters.  Names and operators are kept as they were given:
a labelled constant that passes for text is shown under its label where it is written.

A condition may also be put together from its parts, which are then taken as they are.
-/

namespace RelMap

def binaryOperators : List String := ["=", "!=", "<>", ">", "<", ">=", "<=", "LIKE", "NOT LIKE"]

def sequenceOperators : List String := ["IN", "NOT IN"]

def unaryOperators : List String := ["IS NULL", "IS NOT NULL"]

def operators : List String := binaryOperators ++ sequenceOperators ++ unaryOperators

structure Condition where
  column : Value
  operator : Value
  value : Value := .null
  values : Option (List Value) := none
deriving Repr

/-- The spelling of an operator that comparisons go by: capitals, with one space between words. -/
def normalizeOperator (s : String) : String :=
  String.ofList ((Text.words (Text.capitals s.toList)).intersperse [' ']).flatten

namespace Condition

def hasOperator (c : Condition) (operators : List String) : Bool :=
  match c.operator.textOf? with
  | some op => operators.contains op
  | none => false

def isUnary (c : Condition) : Bool := c.hasOperator unaryOperators

/-- The condition for a checked column and an operator that is spelled in its normal form. -/
def ofOperator (column : Value) (operator : String) (value : Value) : Result Condition :=
  if unaryOperators.contains operator then
    if value.isNull then .ok { column, operator := .text operator }
    else .error (.operatorWithValue operator)
  else if sequenceOperators.contains operator then
    if value.isScalarSequence || !value.isSequence then .error (.operatorWithoutSequence operator)
    else do
      let values ← toParameters (value.items?.getD [])
      .ok { column, operator := .text operator, values := some values }
  else if value.isSequence && !value.isScalarSequence then .error (.operatorWithSequence operator)
  else do
    let value ← value.toParameter
    .ok { column, operator := .text operator, value }

/-- Checks a column, an operator and a value and makes a condition of them. -/
def make (column operator value : Value) : Result Condition := do
  let _ ← checkName "column name" column
  match operator.textOf? with
  | none => .error (.operatorNotText operator)
  | some spelling =>
    let op := normalizeOperator spelling
    if operators.contains op then ofOperator column op value
    else .error (.unsupportedOperator operator)

/-- The values that an argument lists, if it is given. -/
def valuesArgument (v : Value) : Result (Option (List Value)) :=
  if v.isNull then .ok none
  else match v.items? with
    | some items => .ok (some items)
    | none => .error (.fault .wrongType)

/-- The condition that some named arguments put together; a column and an operator must be among
them. -/
def ofArguments (arguments : Arguments) : Result Condition :=
  if arguments.areAmong ["col", "op", "value", "values"] then
    match arguments.get? "col", arguments.get? "op" with
    | some column, some operator => do
      let values ← valuesArgument (arguments.getD "values" .null)
      .ok { column, operator, value := arguments.getD "value" .null, values }
    | _, _ => .error (.fault .wrongType)
  else .error (.fault .wrongType)

end Condition

inductive Comparison where
  | eq
  | ne
  | lt
  | le
  | gt
  | ge
  | like
  | isIn
  | notIn
  | isNull
  | isNotNull
deriving DecidableEq, Repr

namespace Comparison

def operator : Comparison → String
  | eq => "="
  | ne => "<>"
  | lt => "<"
  | le => "<="
  | gt => ">"
  | ge => ">="
  | like => "LIKE"
  | isIn => "IN"
  | notIn => "NOT IN"
  | isNull => "IS NULL"
  | isNotNull => "IS NOT NULL"

def takesValue : Comparison → Bool
  | isNull => false
  | isNotNull => false
  | _ => true

/-- The condition that a comparison makes; a value must be given exactly if it takes one. -/
def condition (c : Comparison) (column : Value) (value : Option Value) : Result Condition :=
  if c.takesValue == value.isSome then
    Condition.make column (.text c.operator) (value.getD .null)
  else .error (.fault .wrongType)

end Comparison

end RelMap
