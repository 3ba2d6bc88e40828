import RelMap.Number.Exact
import RelMap.Value

/-!
# Equality of keys

Where a value is a key it is the same key as every value that is equal to it, whatever its form: a
truth value equals a number, numbers are compared exactly, bytes equal a view of the same bytes, a
labelled constant that passes for text or for an integer equals what it passes for, and moments with
zones are equal if they are the same point of universal time.

`Value.key?` writes what decides as a list of marks: two values are the same key exactly if both
have marks and the marks are equal.  A value without marks is the same as no other: a not-a-number,
a plain constant, an object of a foreign type, and everything that may change in place.
-/

namespace RelMap

inductive Mark where
  | null
  | number (x : Exact)
  | infinity (negative : Bool)
  | text (s : String)
  | bytes (content : List UInt8)
  | day (d : Date)
  | time (t : Clock)
  | instant (d : Date) (t : Clock)
  /-- A point of universal time, in microseconds. -/
  | point (micros : Int)
  /-- A universal time of day in seconds, and the microseconds of the time and of its offset. -/
  | pointOfDay (seconds : Int) (micro : Nat) (offsetMicro : Int)
  | range (count : Nat)
  /-- A tuple of so many elements, whose marks follow. -/
  | tuple (size : Nat)
deriving DecidableEq, Repr

namespace Date

/-- The number of the day, counted from the first of January of the year 1. -/
def number (d : Date) : Nat :=
  (List.range (d.month - 1)).foldl (fun n m => n + daysInMonth d.year (m + 1)) (daysBefore d.year) +
    d.day

end Date

namespace Clock

def seconds (t : Clock) : Nat := t.hour * 3600 + t.minute * 60 + t.second

end Clock

def Moment.mark : Moment → Mark
  | .day d => .day d
  | .time t none => .time t
  | .time t (some z) =>
    .pointOfDay (t.seconds - Int.fdiv z.micros 1000000) t.micro (Int.fmod z.micros 1000000)
  | .instant d t none => .instant d t
  | .instant d t (some z) => .point ((d.number * 86400 + t.seconds) * 1000000 + t.micro - z.micros)

def Real.mark? (x : Real) : Option Mark :=
  match x with
  | .infinite negative => some (.infinity negative)
  | x => x.exact?.map .number

def Decimal.mark? (d : Decimal) : Option Mark :=
  match d with
  | .infinite negative => some (.infinity negative)
  | d => d.exact?.map .number

namespace Value

/-- What a value that is no tuple is compared by. -/
def mark? : Value → Option Mark
  | null => some .null
  | real x => x.mark?
  | decimal d => d.mark?
  | bytes .array _ => Option.none
  | bytes _ content => some (.bytes content)
  | moment m => some m.mark
  | range stop => some (.range stop.toNat)
  | v =>
    match v.textOf?, v.intOf? with
    | some s, _ => some (.text s)
    | Option.none, some n => some (.number (.ofInt n))
    | Option.none, Option.none => Option.none

mutual

def key? : Value → Option (List Mark)
  | tuple items => (keys? items).map fun marks => .tuple items.length :: marks
  | v => v.mark?.map fun m => [m]

def keys? : List Value → Option (List Mark)
  | [] => some []
  | v :: vs => do
    let k ← key? v
    let ks ← keys? vs
    some (k ++ ks)

end

mutual

/-- Can the value be a key?  What may change in place, or holds what may, cannot. -/
def mayBeKey : Value → Bool
  | list _ | set _ | map _ | record _ _ | bytes .array _ => false
  | tuple items => allMayBeKeys items
  | _ => true

def allMayBeKeys : List Value → Bool
  | [] => true
  | v :: vs => mayBeKey v && allMayBeKeys vs

end

def sameKey (v w : Value) : Bool := v.key?.isSome && v.key? == w.key?

@[simp] theorem key?_text (s : String) : (text s).key? = some [.text s] := rfl

/-- A value that passes for a text is the same key as the text. -/
theorem key?_of_textOf? {v : Value} {s : String} (h : v.textOf? = some s) :
    v.key? = some [.text s] := by
  cases v <;> simp_all [textOf?, key?, mark?]

theorem sameKey_comm (v w : Value) : v.sameKey w = w.sameKey v := by
  unfold sameKey
  cases v.key? <;> cases w.key? <;> simp [Bool.beq_comm]

/-- Two values that are the same key as a third are the same key. -/
theorem sameKey_trans {u v w : Value} (h : u.sameKey v = true) (h' : v.sameKey w = true) :
    u.sameKey w = true := by
  simp only [sameKey, Bool.and_eq_true, beq_iff_eq] at h h' ⊢
  exact ⟨h.1, h.2.trans h'.2⟩

end Value

end RelMap
