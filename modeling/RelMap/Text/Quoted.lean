import RelMap.Text.Printable

/-!
# Quoted text and bytes

How a text or a byte string is shown inside a message: between quotes, with a backslash before the
quote and the backslash, short escapes for tab, line feed and carriage return, and hexadecimal
escapes for everything else that is not printable.  The quote is an apostrophe unless the text
holds one and holds no double quote.
-/

namespace RelMap.Text

def hexPadded (width n : Nat) : List Char :=
  let ds := Nat.toDigits 16 n
  List.replicate (width - ds.length) '0' ++ ds

/-- The quote for a text: an apostrophe, unless only the other one avoids escapes. -/
def quoteFor (s : List Char) : Char :=
  if s.contains '\'' && !s.contains '"' then '"' else '\''

def shortEscape? (quote c : Char) : Option (List Char) :=
  if c = quote || c = '\\' then some ['\\', c]
  else if c = '\t' then some ['\\', 't']
  else if c = '\n' then some ['\\', 'n']
  else if c = '\r' then some ['\\', 'r']
  else none

def escapeChar (quote c : Char) : List Char :=
  match shortEscape? quote c with
  | some e => e
  | none =>
    if isPrintable c then [c]
    else if c.toNat < 0x100 then '\\' :: 'x' :: hexPadded 2 c.toNat
    else if c.toNat < 0x10000 then '\\' :: 'u' :: hexPadded 4 c.toNat
    else '\\' :: 'U' :: hexPadded 8 c.toNat

def quote (s : String) : String :=
  let q := quoteFor s.toList
  String.ofList (q :: s.toList.flatMap (escapeChar q) ++ [q])

/-- A byte inside quotes: only printable ASCII stands for itself. -/
def escapeByte (quote : Char) (b : UInt8) : List Char :=
  let c := Char.ofNat b.toNat
  match shortEscape? quote c with
  | some e => e
  | none =>
    if 0x20 ≤ b.toNat && b.toNat < 0x7F then [c] else '\\' :: 'x' :: hexPadded 2 b.toNat

def quoteForBytes (bs : List UInt8) : Char := quoteFor (bs.map fun b => Char.ofNat b.toNat)

/-- Bytes between quotes, marked with a `b`; of the two kinds of quotes, `escaped` takes a
backslash. -/
def enclosedBytes (quote escaped : Char) (bs : List UInt8) : String :=
  String.ofList ('b' :: quote :: bs.flatMap (escapeByte escaped) ++ [quote])

def quoteBytes (bs : List UInt8) : String :=
  enclosedBytes (quoteForBytes bs) (quoteForBytes bs) bs

/-- The content of an array of bytes between quotes: apostrophes take a backslash even where they
need none. -/
def quoteByteArray (bs : List UInt8) : String := enclosedBytes (quoteForBytes bs) '\'' bs

end RelMap.Text
