import RelMap.Calendar.Moment

/-!
# Reading moments

Reads days, times and both from ISO text, in the extended form (`2024-01-02T03:04:05`) and the basic
one (`20240102T030405`), with days also named by week (`2024-W01-2`).  Any one character may stand
between the day and the time.  A time may leave out its minutes and seconds, may have a fraction of
any length after a point or a comma, of which six digits count, and may end with an offset or a `Z`.

Day and time are told apart by position: `dayLength` says how many bytes the day takes.  Positions
count bytes, so the reading works on the bytes of a text, each taken as the character of its number;
a zero byte may stand for the end of a time.
-/

namespace RelMap

open Text

namespace Reading

/-- The bytes of a text, each as the character of its number. -/
def bytesOf (s : String) : List Char := s.toUTF8.toList.map fun b => Char.ofNat b.toNat

/-- The number of bytes of the character that the bytes begin with. -/
def widthOf : List Char → Nat
  | [] => 1
  | c :: _ =>
    if c.toNat < 0x80 then 1 else if c.toNat < 0xE0 then 2 else if c.toNat < 0xF0 then 3 else 4

/-- The byte that may stand for the end. -/
def isEnd (c : Char) : Bool := c.toNat = 0

/-- A number of exactly so many ASCII digits at the start of a text, and the rest. -/
def number? (count : Nat) (s : List Char) : Option (Nat × List Char) :=
  let ds := s.take count
  if ds.length = count && ds.all Char.isDigit then some (natOfDigits ds, s.drop count) else none

/-- The rest of a text after a dash that must stand there if dashes are in use. -/
def dash? (dashed : Bool) : List Char → Option (List Char)
  | '-' :: r => if dashed then some r else some ('-' :: r)
  | r => if dashed then none else some r

/-- A day at the start of a text; `length` is how much of the text the day may take, which decides
whether a week is followed by a day of the week. -/
def date? (length : Nat) (s : List Char) : Option Date := do
  let (year, r) ← number? 4 s
  let (dashed, r) := match r with
    | '-' :: q => (true, q)
    | q => (false, q)
  match r with
  | 'W' :: q =>
    let (week, q) ← number? 2 q
    if (if dashed then 8 else 7) < length then
      let q ← dash? dashed q
      let (day, _) ← number? 1 q
      Date.ofWeek? year week day
    else Date.ofWeek? year week 1
  | q =>
    let (month, q) ← number? 2 q
    let q ← dash? dashed q
    let (day, _) ← number? 2 q
    Date.of? year month day

def dayLength (size : Nat) (s : List Char) : Nat :=
  let isDigitAt (i : Nat) : Bool := match s[i]? with
    | some c => c.isDigit
    | none => false
  if size = 7 then 7
  else if s[4]? = some '-' then
    if s[5]? = some 'W' then
      if s[8]? = some '-' then (if isDigitAt 10 then 8 else 10) else 8
    else 10
  else if s[4]? = some 'W' then
    let stop := 7 + ((s.drop 7).takeWhile Char.isDigit).length
    if stop < 9 then stop else if stop % 2 = 0 then 7 else 8
  else 8

/-- The parts of a time as they are read: hour, minute, second and microsecond. -/
structure Parts where
  hour : Nat := 0
  minute : Nat := 0
  second : Nat := 0
  micro : Nat := 0
deriving DecidableEq, Repr

def ends : List Char → Bool
  | [] => true
  | c :: _ => isEnd c

/-- A fraction of a second; of its digits the first six count.  Also tells whether the text ends
with the digits. -/
def fraction? (p : Parts) (s : List Char) : Option (Parts × Bool) := do
  let count := min 6 s.length
  let (n, r) ← number? count s
  some (⟨p.hour, p.minute, p.second, n * Nat.pow 10 (6 - count)⟩, ends (r.dropWhile Char.isDigit))

inductive Gap where
  | finished (complete : Bool)
  | fraction (rest : List Char)
  | next (rest : List Char)

/-- Looks past a part of a time: its end, a fraction, or the next part.  With colons in use the next
part follows a colon, without them it follows at once. -/
def gap? (colons : Bool) : List Char → Option Gap
  | [] => some (.finished true)
  | [c] => some (.finished (isEnd c))
  | c :: r =>
    if colons && c = ':' then some (.next r)
    else if c = '.' || c = ',' then some (.fraction r)
    else if colons then none
    else some (.next (c :: r))

/-- Parts of a time: the hour, then possibly the minute, the second and a fraction.  Also tells
whether the whole text was read. -/
def parts? (s : List Char) : Option (Parts × Bool) := do
  let (h, r) ← number? 2 s
  let colons : Bool := r.head? == some ':'
  match ← gap? colons r with
  | .finished b => some (⟨h, 0, 0, 0⟩, b)
  | .fraction r => fraction? ⟨h, 0, 0, 0⟩ r
  | .next r =>
    let (m, r) ← number? 2 r
    match ← gap? colons r with
    | .finished b => some (⟨h, m, 0, 0⟩, b)
    | .fraction r => fraction? ⟨h, m, 0, 0⟩ r
    | .next r =>
      let (s, r) ← number? 2 r
      match ← gap? colons r with
      | .finished b => some (⟨h, m, s, 0⟩, b)
      | .fraction r => fraction? ⟨h, m, s, 0⟩ r
      | .next r => fraction? ⟨h, m, s, 0⟩ r

/-- The offset of a zone on one side of universal time.  An offset of less than a second is
universal time. -/
def offset? (west : Bool) (p : Parts) : Option Offset :=
  let seconds := p.hour * 3600 + p.minute * 60 + p.second
  if seconds = 0 then some .utc
  else
    let n : Int := seconds * 1000000 + p.micro
    Offset.of? (if west then -n else n)

/-- A time of day with its zone.  Before an offset, characters after the parts are passed over. -/
def time? (s : List Char) : Option (Clock × Option Offset) := do
  let isZone (c : Char) : Bool := c = '+' || c = '-' || c = 'Z'
  let (p, complete) ← parts? (s.takeWhile fun c => !isZone c)
  let zone ← match s.dropWhile fun c => !isZone c with
    | [] => if complete then some none else none
    | 'Z' :: r => if ends r then some (some Offset.utc) else none
    | sign :: r => do
      let (q, complete) ← parts? r
      if complete then (offset? (sign = '-') q).map some else none
  let clock ← Clock.of? p.hour p.minute p.second p.micro
  some (clock, zone)

end Reading

open Reading

/-- Reads a day, which takes seven, eight or ten bytes. -/
def Date.ofText? (s : String) : Option Date :=
  let size := s.utf8ByteSize
  if size = 7 || size = 8 || size = 10 then date? size (bytesOf s) else none

/-- Reads a day and a time; a text that ends after the day names midnight. -/
def Moment.instantOfText? (s : String) : Option Moment :=
  let size := s.utf8ByteSize
  if size < 7 then none
  else do
    let bytes := bytesOf s
    let length := dayLength size bytes
    let day ← date? length bytes
    if length < size then
      let rest := bytes.drop length
      let (clock, zone) ← time? (rest.drop (widthOf rest))
      some (.instant day clock zone)
    else some (.instant day ⟨0, 0, 0, 0, rfl⟩ none)

/-- Reads a time of day, which may begin with a `T`. -/
def Moment.timeOfText? (s : String) : Option Moment := do
  let body := match bytesOf s with
    | 'T' :: r => r
    | r => r
  let (clock, zone) ← time? body
  some (.time clock zone)

end RelMap
