import RelMap.Text.Digit
import RelMap.Text.Printable
import RelMap.Text.SignTable

/-!
# Words

A word is made of letters, digits and underscores of any script and does not begin with a digit.
Reserved words are no names; three of them are constants.
-/

namespace RelMap.Text

/-- The characters of words: ASCII letters, digits and the underscore, and beyond ASCII everything
printable that is no sign. -/
def isWordChar (c : Char) : Bool :=
  if c.toNat < 0x80 then c.isAlphanum || c = '_'
  else isPrintable c && !inRanges signRanges c.toNat

def constantWords : List String := ["False", "None", "True"]

def reservedWords : List String :=
  constantWords ++
    ["and", "as", "assert", "async", "await", "break", "class", "continue", "def", "del", "elif",
     "else", "except", "finally", "for", "from", "global", "if", "import", "in", "is", "lambda",
     "nonlocal", "not", "or", "pass", "raise", "return", "try", "while", "with", "yield"]

def isWord : List Char → Bool
  | [] => false
  | c :: rest => !isDigit c && isWordChar c && rest.all isWordChar

def isFreeWord (s : String) : Bool := isWord s.toList && !reservedWords.contains s

end RelMap.Text
