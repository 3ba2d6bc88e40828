/-!
# Faults of settings

What can be wrong with the value of one setting.
-/

namespace RelMap

/-- The fault of a value that is given for a setting. -/
inductive SettingFault where
  | notAmongChoices
  | notText
  | textNotUnicode
  | notInteger
  | integerUnreadable
  | integerTooLong
  | fractional
  | notFinite
  | tooSmall
  | tooLarge
  | notTruth
  | truthUnreadable
deriving DecidableEq, Repr

def SettingFault.name : SettingFault → String
  | notAmongChoices => "literal_error"
  | notText => "string_type"
  | textNotUnicode => "string_unicode"
  | notInteger => "int_type"
  | integerUnreadable => "int_parsing"
  | integerTooLong => "int_parsing_size"
  | fractional => "int_from_float"
  | notFinite => "finite_number"
  | tooSmall => "greater_than_equal"
  | tooLarge => "less_than_equal"
  | notTruth => "bool_type"
  | truthUnreadable => "bool_parsing"

end RelMap
