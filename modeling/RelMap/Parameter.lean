import RelMap.Error

/-!
# Parameters

The values that a statement can bind are the absent value, truth values, integers, floating-point
numbers, text and bytes.  `Value.toParameter` brings other values into this form where there is
one: a labelled constant becomes what it holds, the other forms of bytes become plain bytes, days
and times become ISO text and decimal numbers their text.
-/

namespace RelMap

def Value.isParameter : Value → Bool
  | .null => true
  | .bool _ => true
  | .int _ => true
  | .real _ => true
  | .text _ => true
  | .bytes .bytes _ => true
  | _ => false

def Value.toParameter : Value → Result Value
  | .constant _ held => held.toParameter
  | .textConstant _ s => .ok (.text s)
  | .intConstant _ n => .ok (.int n)
  | .sqlType t => .ok (.text t.name)
  | .null => .ok .null
  | .bool b => .ok (.bool b)
  | .int n => .ok (.int n)
  | .real x => .ok (.real x)
  | .text s => .ok (.text s)
  | .bytes _ content => .ok (.bytes .bytes content)
  | .moment m => .ok (.text m.iso)
  | .decimal d => .ok (.text d.text)
  | v => .error (.unsupportedParameter v.typeName)

def toParameters (vs : List Value) : Result (List Value) := vs.mapM Value.toParameter

/-- Checks that a value is an identifier; `role` is what messages call it. -/
def checkName (role : String) (given : Value) : Result Name :=
  match Name.ofValue? given with
  | some n => if n.isIdentifier then .ok n else .error (.invalidName role given)
  | none => .error (.invalidName role given)

theorem isParameter_of_toParameter {v p : Value} (h : v.toParameter = .ok p) :
    p.isParameter = true := by
  fun_induction Value.toParameter v with
  | case1 _ held ih => exact ih h
  | case13 => cases h
  | _ => cases h; rfl

theorem toParameter_of_isParameter {v : Value} (h : v.isParameter = true) :
    v.toParameter = .ok v := by
  fun_cases Value.isParameter v with
  | case7 v => simp [Value.isParameter] at h
  | _ => rfl

end RelMap
