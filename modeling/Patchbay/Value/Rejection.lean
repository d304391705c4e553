/-!
# Rejected values

A literal is never cut or wrapped to fit its type.  What does not fit is rejected with one of the
causes below, which keep the texts that their messages show.
-/

namespace Patchbay

/-- Why a literal has no encoding for its type. -/
inductive Rejection where
  /-- The value lies below the range of its type. -/
  | belowRange (value least : String)
  /-- The value lies above the range of its type. -/
  | aboveRange (value greatest : String)
  /-- The fractional part is no multiple of 1/16. -/
  | offGrid (value : String)
  | notAnInteger (literal : String)
  | notABoolean (literal : String)
  | notANumber (literal : String)
  /-- The text holds a character outside ASCII, or a NUL. -/
  | notAWireString (literal : String)
deriving DecidableEq, Repr

/-- The message for a rejected value. -/
def Rejection.message : Rejection → String
  | belowRange value least =>
    "value " ++ value ++ " is too small (minimum value is " ++ least ++ ")"
  | aboveRange value greatest =>
    "value " ++ value ++ " is too large (maximum value is " ++ greatest ++ ")"
  | offGrid value => "value " ++ value ++ " cannot be represented as fix point number"
  | notAnInteger literal => "invalid integer value \"" ++ literal ++ "\""
  | notABoolean literal => "invalid boolean value \"" ++ literal ++ "\""
  | notANumber literal => "invalid floating point value \"" ++ literal ++ "\""
  | notAWireString literal =>
    "string \"" ++ literal ++ "\" contains non-ASCII or NUL characters"

end Patchbay
