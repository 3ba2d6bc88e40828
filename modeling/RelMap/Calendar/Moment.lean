import RelMap.Calendar.Date
import RelMap.Text.Digit

/-!
# Times and moments

A `Clock` is a time of day to the microsecond, an `Offset` the distance of a zone from universal
time, and a `Moment` is a day, a time of day or both.  `Moment.iso` writes a moment in the extended
ISO format, `Moment.literal` as a constructor call, the form it has inside messages.
-/

namespace RelMap

open Text

def isTimeOfDay (hour minute second micro : Nat) : Bool :=
  hour < 24 && minute < 60 && second < 60 && micro < 1000000

structure Clock where
  hour : Nat
  minute : Nat
  second : Nat
  micro : Nat
  valid : isTimeOfDay hour minute second micro = true
deriving DecidableEq, Repr

instance : Inhabited Clock := ⟨⟨0, 0, 0, 0, by decide⟩⟩

def Clock.of? (hour minute second micro : Nat) : Option Clock :=
  if h : isTimeOfDay hour minute second micro = true then some ⟨hour, minute, second, micro, h⟩
  else none

def dayMicros : Nat := 86400000000

/-- The distance of a zone from universal time in microseconds, less than a day. -/
structure Offset where
  micros : Int
  valid : micros.natAbs < dayMicros
deriving DecidableEq, Repr

def Offset.of? (micros : Int) : Option Offset :=
  if h : micros.natAbs < dayMicros then some ⟨micros, h⟩ else none

def Offset.utc : Offset := ⟨0, by decide⟩

/-- A day, a time of day, or both; a time may name its zone. -/
inductive Moment where
  | day (d : Date)
  | time (t : Clock) (zone : Option Offset)
  | instant (d : Date) (t : Clock) (zone : Option Offset)
deriving DecidableEq, Repr

/-! ## The extended ISO format -/

def padded (width n : Nat) : List Char :=
  let ds := digitsOf n
  List.replicate (width - ds.length) '0' ++ ds

/-- Year, month and day, joined by dashes. -/
def Date.iso (d : Date) : List Char :=
  padded 4 d.year ++ '-' :: (padded 2 d.month ++ '-' :: padded 2 d.day)

/-- Hour, minute and second, joined by colons, and the microseconds unless they are zero. -/
def Clock.iso (t : Clock) : List Char :=
  padded 2 t.hour ++ ':' :: (padded 2 t.minute ++ ':' :: (padded 2 t.second ++
    (if t.micro = 0 then [] else '.' :: padded 6 t.micro)))

/-- The sign, hour and minute of an offset, its seconds unless they and the microseconds are zero,
and the microseconds unless they are zero. -/
def Offset.iso (o : Offset) : List Char :=
  let n := o.micros.natAbs
  let seconds := n / 1000000
  let micro := n % 1000000
  (if o.micros < 0 then '-' else '+') :: (padded 2 (seconds / 3600) ++
    ':' :: (padded 2 (seconds / 60 % 60) ++
      (if seconds % 60 = 0 && micro = 0 then []
       else ':' :: (padded 2 (seconds % 60) ++
        (if micro = 0 then [] else '.' :: padded 6 micro)))))

def zoneIso : Option Offset → List Char
  | none => []
  | some o => o.iso

/-- A moment in the extended ISO format, day and time joined by a `T`. -/
def Moment.iso : Moment → String
  | .day d => String.ofList d.iso
  | .time t z => String.ofList (t.iso ++ zoneIso z)
  | .instant d t z => String.ofList (d.iso ++ 'T' :: (t.iso ++ zoneIso z))

/-! ## Constructor calls -/

/-- A span of time as named parts: whole days, then seconds of a day, then microseconds, zero parts
left out. -/
def spanLiteral (micros : Int) : String :=
  let days := Int.fdiv micros dayMicros
  let rest := (Int.fmod micros dayMicros).toNat
  let part (name : String) (n : Int) : List String :=
    if n = 0 then [] else [name ++ "=" ++ toString n]
  let parts := part "days" days ++ part "seconds" (rest / 1000000 : Nat) ++
    part "microseconds" (rest % 1000000 : Nat)
  "datetime.timedelta(" ++ (if parts.isEmpty then "0" else ", ".intercalate parts) ++ ")"

def Offset.literal (o : Offset) : String :=
  if o.micros = 0 then "datetime.timezone.utc"
  else "datetime.timezone(" ++ spanLiteral o.micros ++ ")"

/-- The arguments that a time of day takes: seconds only if they or the microseconds are not zero,
microseconds only if they are not zero. -/
def Clock.arguments (t : Clock) : List String :=
  let head := [toString t.hour, toString t.minute]
  if t.micro ≠ 0 then head ++ [toString t.second, toString t.micro]
  else if t.second ≠ 0 then head ++ [toString t.second]
  else head

def zoneArguments : Option Offset → List String
  | none => []
  | some o => ["tzinfo=" ++ o.literal]

def Date.arguments (d : Date) : List String := [toString d.year, toString d.month, toString d.day]

def Moment.literal : Moment → String
  | .day d => "datetime.date(" ++ ", ".intercalate d.arguments ++ ")"
  | .time t z => "datetime.time(" ++ ", ".intercalate (t.arguments ++ zoneArguments z) ++ ")"
  | .instant d t z =>
    "datetime.datetime(" ++ ", ".intercalate (d.arguments ++ t.arguments ++ zoneArguments z) ++ ")"

end RelMap
