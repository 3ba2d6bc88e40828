import RelMap.Number.Exact
import RelMap.Settings.Integer
import RelMap.Value.Literal

/-!
# Checking the values of settings

Settings are given as text by the environment and as values of any kind by the program.  A text may
be written by bytes.  An integer may be written as text, and so may a truth value; whole numbers of
other kinds pass for integers, and zero and one for truth values.  Text is never made from numbers.
A labelled constant stands for what it holds: where a text is asked for, for the running text of
that; where an integer is asked for it must hold one, which is then kept as it is.
-/

namespace RelMap

/-! ## Truth values as text -/

/-- The words for truth and falsehood, in small letters. -/
def truthWords : List (String × Bool) :=
  [("0", false), ("off", false), ("f", false), ("false", false), ("n", false), ("no", false),
   ("1", true), ("on", true), ("t", true), ("true", true), ("y", true), ("yes", true)]

/-- Reads a truth value; the case of ASCII letters does not count. -/
def truthOfText? (s : String) : Option Bool :=
  (truthWords.find? fun e => e.1.toList == s.toList.map Char.toLower).map Prod.snd

/-! ## Values -/

namespace Value

/-- The text that bytes are, if they are one. -/
def decoded? (content : List UInt8) : Option String := String.fromUTF8? ⟨content.toArray⟩

/-- The text that a value writes: its own, or that of its bytes if they are a text. -/
def written? (v : Value) : Option (Option String) :=
  match v with
  | .bytes .bytes content => some (decoded? content)
  | v => v.textOf?.map some

/-- Integers of this size and above are not taken from floating-point numbers. -/
def realBound : Int := Nat.pow 2 63

def wholeReal (x : Real) : Checked Int :=
  match x with
  | .finite _ _ _ =>
    match x.toInt? with
    | none => .error .fractional
    | some n => if -realBound < n && n < realBound then .ok n else .error .integerTooLong
  | _ => .error .notFinite

def wholeDecimal (d : Decimal) : Checked Int :=
  match d.exact? with
  | some x =>
    match x.toInt? with
    | some n => .ok n
    | none => .error .fractional
  | none => .error .notFinite

/-- A text; here bytes that may change pass for bytes, and a constant for the running text of what
it holds. -/
def checkText (v : Value) : Checked String :=
  match v with
  | .bytes .view _ => .error .notText
  | .bytes _ content =>
    match decoded? content with
    | some s => .ok s
    | none => .error .textNotUnicode
  | .constant _ held => .ok held.display
  | .intConstant _ n => .ok (toString n)
  | v =>
    match v.textOf? with
    | some s => .ok s
    | none => .error .notText

/-- An integer.  A plain constant is replaced by the integer that it holds, which stays what it
is. -/
def checkInteger (v : Value) : Checked Value :=
  match v.intOf?, v.written? with
  | some n, _ => .ok (.int n)
  | none, some (some s) => (SettingInteger.read s.toList).map .int
  | none, some none => .error .integerUnreadable
  | none, none =>
    match v with
    | .real x => (wholeReal x).map .int
    | .decimal d => (wholeDecimal d).map .int
    | .constant _ held => if held.intOf?.isSome then .ok held else .error .integerTooLong
    | _ => .error .notInteger

def truthOfInteger (n : Int) : Checked Bool :=
  if n = 0 then .ok false else if n = 1 then .ok true else .error .truthUnreadable

/-- An integer as a truth value; one of more than 64 bits is none. -/
def truthOfInt (n : Int) : Checked Bool :=
  if -realBound ≤ n && n < realBound then truthOfInteger n else .error .notTruth

/-- The exact value of a floating-point number as a truth value, if it is a whole number within its
bounds. -/
def truthOfExact (x : Option Exact) : Checked Bool :=
  match x.bind Exact.toInt? with
  | some n => if -realBound < n && n < realBound then truthOfInteger n else .error .notTruth
  | none => .error .notTruth

/-- A truth value; a decimal number counts as the floating-point number next to it. -/
def checkTruth (v : Value) : Checked Bool :=
  match v.intOf?, v.written? with
  | some n, _ => truthOfInt n
  | none, some s =>
    match s.bind truthOfText? with
    | some b => .ok b
    | none => .error .truthUnreadable
  | none, none =>
    match v with
    | .real x => truthOfExact x.exact?
    | .decimal d => truthOfExact d.nearestExact?
    | _ => .error .notTruth

def checkBetween (check : Value → Checked Value) (low : Int) (high : Option Int) (v : Value) :
    Checked Value := do
  let checked ← check v
  let n := checked.intOf?.getD 0
  if n < low then .error .tooSmall
  else match high with
    | some h => if h < n then .error .tooLarge else .ok checked
    | none => .ok checked

def checkOptional {α : Type} (check : Value → Checked α) (v : Value) : Checked (Option α) :=
  if v.isNull then .ok none else (check v).map some

/-- A value that may be absent and is kept as such. -/
def checkNullable (check : Value → Checked Value) (v : Value) : Checked Value :=
  if v.isNull then .ok .null else check v

/-- A text that is kept secret; whatever is wrong with it, it is no text. -/
def checkSecret (check : Value → Checked String) (v : Value) : Checked String :=
  match check v with
  | .ok s => .ok s
  | .error _ => .error .notText

end Value

/-! ## Conversions -/

/-- What a check makes of values where a text, an integer or a truth value is asked for. -/
structure Conversion where
  text : Value → Checked String
  integer : Value → Checked Value
  truth : Value → Checked Bool

/-- The conversions described above. -/
def Conversion.standard : Conversion where
  text := Value.checkText
  integer := Value.checkInteger
  truth := Value.checkTruth

end RelMap
