import RelMap.Text.Blank
import RelMap.Text.Word

/-!
# Type hints as text

A hint may be written as text: names, names applied to arguments in brackets, and alternatives
joined by bars.  `TypeText.ofText?` reads the text; a text that it refuses is no expression.

A text that was not meant as a hint may be met as well, so the reader also knows whole numbers,
quoted text without escapes, parentheses, lists of expressions with commas between them, and the
signs of arithmetic, which bind closer than bars.  Other signs are in no hint.  Lines may break
inside brackets, and empty lines may surround the hint, which must not be indented.
-/

namespace RelMap

open Text

inductive TypeToken where
  | word (s : String)
  | quoted (s : String)
  | left
  | right
  | opening
  | closing
  | comma
  | bar
  /-- A sign of arithmetic; some may stand in front of an operand. -/
  | sign (leading : Bool)
deriving DecidableEq, Repr

namespace TypeToken

def close (word : List Char) (rest : List TypeToken) : List TypeToken :=
  if word.isEmpty then rest else .word (String.ofList word.reverse) :: rest

/-- The sign that a character is by itself. -/
def ofChar? : Char → Option TypeToken
  | '[' => some left
  | ']' => some right
  | '(' => some opening
  | ')' => some closing
  | ',' => some comma
  | '|' => some bar
  | '-' | '+' | '~' => some (sign true)
  | '*' | '/' | '%' | '@' | '&' | '^' | '.' | '<' | '>' => some (sign false)
  | _ => none

def isGap (c : Char) : Bool := c = ' ' || c = '\t' || c = '\x0c'

def isBreak (c : Char) : Bool := c = '\n' || c = '\r'

/-- A text without the empty lines at its beginning; `line` is the line being looked at. -/
def skipEmptyLines (line : List Char) : List Char → List Char
  | [] => line
  | c :: rest =>
    if isBreak c then skipEmptyLines rest rest
    else if isGap c then skipEmptyLines line rest
    else line

def depthAfter (depth : Nat) (c : Char) : Nat :=
  if c = '[' || c = '(' then depth + 1 else if c = ']' || c = ')' then depth - 1 else depth

/-- The signs of a text; `read` is the word being read, backwards, or the text between quotes if
there is an open quote, and `depth` says how many brackets are open. -/
def scan (openQuote : Option Char) (depth : Nat) (read : List Char) :
    List Char → Option (List TypeToken)
  | [] => if openQuote.isSome then none else some (close read [])
  | c :: rest =>
    match openQuote with
    | some q =>
      if c = q then
        (scan none depth [] rest).map fun ts => quoted (String.ofList read.reverse) :: ts
      else if c = '\\' || isBreak c then none
      else scan (some q) depth (c :: read) rest
    | none =>
      if isWordChar c then scan none depth (c :: read) rest
      else if isGap c then (scan none depth [] rest).map (close read)
      else if isBreak c then
        if 0 < depth then (scan none depth [] rest).map (close read)
        else if (skipEmptyLines rest rest).isEmpty then some (close read [])
        else none
      else if c = '\'' || c = '"' then (scan (some c) depth [] rest).map (close read)
      else match ofChar? c with
        | some t => (scan none (depthAfter depth c) [] rest).map fun ts => close read (t :: ts)
        | none => none

end TypeToken

inductive TypeText where
  | name (s : String)
  | number (n : Nat)
  | quoted (s : String)
  | applied (head : TypeText) (index : TypeText)
  | either (a b : TypeText)
  /-- Two operands with a sign of arithmetic between them. -/
  | joined (a b : TypeText)
  | several (items : List TypeText)
deriving Repr, Inhabited

namespace TypeText

/-- A whole number: ASCII digits, with single underscores between them; only zeros may begin with a
zero. -/
def number? (s : List Char) : Option TypeText :=
  match s with
  | '0' :: _ =>
    if s.all (fun c => c = '0' || c = '_') && s.getLast? != some '_' then some (number 0) else none
  | c :: _ =>
    if c.isDigit && s.all (fun c => c.isDigit || c = '_') && s.getLast? != some '_' then
      some (number (natOfDigits s))
    else none
  | [] => none

/-- What a word alone is: a constant, a name, or a number. -/
def ofWord? (s : String) : Option TypeText :=
  if constantWords.contains s || isFreeWord s then some (name s) else number? s.toList

mutual

/-- Reads alternatives; `fuel` bounds the depth of the reading. -/
def parse : (fuel : Nat) → List TypeToken → Option (TypeText × List TypeToken)
  | 0, _ => none
  | fuel + 1, ts => do
    let (a, rest) ← parseTerm fuel ts
    parseMore fuel a rest

def parseMore : (fuel : Nat) → TypeText → List TypeToken → Option (TypeText × List TypeToken)
  | 0, _, _ => none
  | fuel + 1, a, .bar :: ts => do
    let (b, rest) ← parseTerm fuel ts
    parseMore fuel (.either a b) rest
  | _ + 1, a, ts => some (a, ts)

def parseTerm : (fuel : Nat) → List TypeToken → Option (TypeText × List TypeToken)
  | 0, _ => none
  | fuel + 1, .sign true :: ts => do
    let (a, rest) ← parseTerm fuel ts
    some (.joined (.number 0) a, rest)
  | fuel + 1, ts => do
    let (a, rest) ← parseOperand fuel ts
    match rest with
    | .sign _ :: rest => do
      let (b, rest) ← parseTerm fuel rest
      some (.joined a b, rest)
    | rest => some (a, rest)

/-- Reads a word, a quoted text or an expression in parentheses, with what it is applied to. -/
def parseOperand : (fuel : Nat) → List TypeToken → Option (TypeText × List TypeToken)
  | 0, _ => none
  | fuel + 1, .word s :: ts => do
    let a ← ofWord? s
    parseIndices fuel a ts
  | fuel + 1, .quoted s :: ts => parseIndices fuel (.quoted s) ts
  | fuel + 1, .opening :: .closing :: ts => parseIndices fuel (.several []) ts
  | fuel + 1, .opening :: ts => do
    let (a, rest) ← parseList fuel ts
    match rest with
    | .closing :: rest => parseIndices fuel a rest
    | _ => none
  | _ + 1, _ => none

def parseIndices : (fuel : Nat) → TypeText → List TypeToken → Option (TypeText × List TypeToken)
  | 0, _, _ => none
  | fuel + 1, a, .left :: ts => do
    let (index, rest) ← parseList fuel ts
    match rest with
    | .right :: rest => parseIndices fuel (.applied a index) rest
    | _ => none
  | _ + 1, a, ts => some (a, ts)

/-- Reads one expression, or several with commas between them, of which the last may end with
one. -/
def parseList : (fuel : Nat) → List TypeToken → Option (TypeText × List TypeToken)
  | 0, _ => none
  | fuel + 1, ts => do
    let (a, rest) ← parse fuel ts
    match rest with
    | .comma :: rest => do
      let (as, rest) ← parseItems fuel rest
      some (.several (a :: as), rest)
    | rest => some (a, rest)

def parseItems : (fuel : Nat) → List TypeToken → Option (List TypeText × List TypeToken)
  | 0, _ => none
  | _ + 1, [] => some ([], [])
  | _ + 1, .right :: ts => some ([], .right :: ts)
  | _ + 1, .closing :: ts => some ([], .closing :: ts)
  | fuel + 1, ts => do
    let (a, rest) ← parse fuel ts
    match rest with
    | .comma :: rest => do
      let (as, rest) ← parseItems fuel rest
      some (a :: as, rest)
    | rest => some ([a], rest)

end

/-- Reads a written hint, which must not begin with a gap. -/
def ofText? (s : String) : Option TypeText :=
  match TypeToken.skipEmptyLines s.toList s.toList with
  | [] => none
  | c :: rest =>
    if TypeToken.isGap c then none
    else do
      let ts ← TypeToken.scan none 0 [] (c :: rest)
      match ← parseList (6 * ts.length + 6) ts with
      | (a, []) => some a
      | _ => none

end TypeText

end RelMap
