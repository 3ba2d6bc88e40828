/-!
# Days of the calendar

A `Date` is a day of the Gregorian calendar between the years 1 and 9999.  Days are counted from the
first of January of the year 1, which is day 1 and a Monday; a day may also be named by its week,
where week 1 of a year is the one that holds the first Thursday.
-/

namespace RelMap

def isLeap (year : Nat) : Bool := year % 4 = 0 && (year % 100 ≠ 0 || year % 400 = 0)

def daysInMonth (year month : Nat) : Nat :=
  if month = 2 then (if isLeap year then 29 else 28)
  else if month = 4 || month = 6 || month = 9 || month = 11 then 30
  else 31

def isDay (year month day : Nat) : Bool :=
  1 ≤ year && year ≤ 9999 && 1 ≤ month && month ≤ 12 && 1 ≤ day && day ≤ daysInMonth year month

structure Date where
  year : Nat
  month : Nat
  day : Nat
  valid : isDay year month day = true
deriving DecidableEq, Repr

namespace Date

instance : Inhabited Date := ⟨⟨1, 1, 1, by decide⟩⟩

def of? (year month day : Nat) : Option Date :=
  if h : isDay year month day = true then some ⟨year, month, day, h⟩ else none

def daysBefore (year : Nat) : Nat :=
  let y := year - 1
  365 * y + y / 4 - y / 100 + y / 400

/-- The weekday of the first of January; Monday is 0. -/
def firstWeekday (year : Nat) : Nat := daysBefore year % 7

/-- The day of a year with the given number, counted from 1. -/
def ofYearDay? (year : Nat) (number : Nat) : Option Date :=
  let rec go (month left : Nat) : (months : Nat) → Option Date
    | 0 => none
    | n + 1 =>
      if left ≤ daysInMonth year month then of? year month left
      else go (month + 1) (left - daysInMonth year month) n
  go 1 number 12

def weeksIn (year : Nat) : Nat :=
  if firstWeekday year = 3 || (firstWeekday year = 2 && isLeap year) then 53 else 52

/-- The day that a year, a week and a day of the week (Monday is 1) name.  It may fall into the year
before or after. -/
def ofWeek? (year week day : Nat) : Option Date :=
  if year = 0 || 9999 < year || week = 0 || weeksIn year < week || day = 0 || 7 < day then none
  else
    let first := daysBefore year + 1
    let monday := if firstWeekday year ≤ 3 then first - firstWeekday year
      else first + 7 - firstWeekday year
    let count := monday + (week - 1) * 7 + (day - 1)
    if count ≤ daysBefore year then ofYearDay? (year - 1) (count - daysBefore (year - 1))
    else if count ≤ daysBefore (year + 1) then ofYearDay? year (count - daysBefore year)
    else ofYearDay? (year + 1) (count - daysBefore (year + 1))

theorem of?_eq_some (d : Date) : of? d.year d.month d.day = some d := by
  simp [of?, d.valid]

end Date

end RelMap
