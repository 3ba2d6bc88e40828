import RelMap.Value

/-!
# Named arguments

Values under names, in no particular order: the options of a connection, the settings that a program
gives, the parts of a column, a condition or a query that is put together by name.
-/

namespace RelMap

abbrev Arguments := List (String × Value)

namespace Arguments

def get? (as : Arguments) (name : String) : Option Value :=
  (as.find? fun a => a.1 == name).map Prod.snd

/-- The value under a name, or another if there is none. -/
def getD (as : Arguments) (name : String) (v : Value) : Value := (as.get? name).getD v

def has (as : Arguments) (name : String) : Bool := as.any fun a => a.1 == name

def areAmong (as : Arguments) (names : List String) : Bool := as.all fun a => names.contains a.1

def set (as : Arguments) (name : String) (v : Value) : Arguments :=
  if as.has name then as.map fun a => if a.1 == name then (name, v) else a
  else as ++ [(name, v)]

def without (as : Arguments) (names : List String) : Arguments :=
  as.filter fun a => !names.contains a.1

def update (as more : Arguments) : Arguments := more.foldl (fun as a => as.set a.1 a.2) as

end Arguments

end RelMap
