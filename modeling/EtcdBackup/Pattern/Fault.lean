/-!
# Faults of patterns

Why a text is no pattern. Faults come from reading the text, from the character classes in it, or
from constructs that cannot be matched.
-/

set_option autoImplicit false
set_option relaxedAutoImplicit false

namespace EtcdBackup

/-- Why a text is no pattern. -/
inductive Pattern.Fault
  | unreadable
  | unclosedGroup
  | invalidRepetition
  | nestedTooDeep
  | trailingBackslash
  | invalidEscape
  | unclosedPropertyName
  | invalidHex
  | invalidCodePoint
  | invalidClass
  | unknownFlag
  | invalidBackreference
  | notRepeatable
  | invalidGroupName
  | unknownGroupName
  | lookBehindNotConstant
  | mixedBackreferences
  | unknownProperty
  | tooLarge
  deriving DecidableEq, Repr

/-- The wording of a fault. -/
def Pattern.Fault.message : Pattern.Fault → String
  | .unreadable => "the pattern cannot be read"
  | .unclosedGroup => "a group is not closed"
  | .invalidRepetition => "a repetition count is invalid"
  | .nestedTooDeep => "groups are nested too deep"
  | .trailingBackslash => "the pattern ends in a backslash"
  | .invalidEscape => "an escape is invalid"
  | .unclosedPropertyName => "the name of a property is not closed"
  | .invalidHex => "a hexadecimal escape is invalid"
  | .invalidCodePoint => "an escape denotes no character"
  | .invalidClass => "a character class is invalid"
  | .unknownFlag => "a flag is unknown"
  | .invalidBackreference => "a backreference has no group"
  | .notRepeatable => "there is nothing to repeat"
  | .invalidGroupName => "the name of a group is invalid"
  | .unknownGroupName => "the name of a group is unknown"
  | .lookBehindNotConstant => "a look-behind has no constant size"
  | .mixedBackreferences => "numbered backreferences do not go with named groups"
  | .unknownProperty => "a character property is unknown"
  | .tooLarge => "the pattern is too large"

end EtcdBackup
