import RelMap.Text.Printable
import RelMap.Text.CaseTable

/-!
# Letter case

`lower` writes a text in small letters.  Each character is mapped on its own, but for two: a capital
I with a dot becomes two characters, and a sigma takes its final form at the end of a word.
`capitals` writes a text in capital letters as far as ASCII goes, which is enough to compare it with
names that are ASCII.
-/

namespace RelMap.Text

/-- The small form of a character that does not depend on its neighbours. -/
def smallForm (c : Char) : Char :=
  if c.toNat < 0x80 then c.toLower
  else match capitalRuns.find? fun r =>
      r.first ≤ c.toNat && c.toNat ≤ r.last && (c.toNat - r.first) % r.step == 0 with
    | some r => Char.ofNat (Int.toNat (c.toNat + r.shift))
    | none => c

/-- Does the nearest character that is not passed over carry case? -/
def meetsCased (s : List Char) : Bool :=
  match s.dropWhile fun c => inRanges caseIgnorableRanges c.toNat with
  | [] => false
  | c :: _ => inRanges casedRanges c.toNat

/-- The small form of a character between the text before it, nearest character first, and the text
after it. -/
def lowerBetween (before : List Char) (c : Char) (after : List Char) : List Char :=
  if c = 'Σ' then [if meetsCased before && !meetsCased after then 'ς' else 'σ']
  else if c = 'İ' then ['i', Char.ofNat 0x307]
  else [smallForm c]

/-- Small letters for the rest of a text; `before` is what has been read, backwards. -/
def lowerAfter (before : List Char) : List Char → List Char
  | [] => []
  | c :: rest => lowerBetween before c rest ++ lowerAfter (c :: before) rest

def lowerChars (s : List Char) : List Char := lowerAfter [] s

def lower (s : String) : String := String.ofList (lowerChars s.toList)

/-- The capital form of a character, where that form is ASCII. -/
def capitalForm (c : Char) : List Char :=
  if c.toNat < 0x80 then [c.toUpper]
  else match asciiCapitals.find? fun e => e.1 == c.toNat with
    | some e => e.2.toList
    | none => [c]

/-- A text in capital letters as far as ASCII goes: a character whose capital form is not ASCII
stays. -/
def capitals (s : List Char) : List Char := s.flatMap capitalForm

end RelMap.Text
