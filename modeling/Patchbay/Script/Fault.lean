import Patchbay.Opcode
import Patchbay.Text.Quoted
import Patchbay.Value.Rejection

/-!
# Errors in scripts

A script is rejected at the first line that has a fault.  The fault says what is wrong with the
line, and the error adds the number of the line.
-/

namespace Patchbay.Script

/-- The numbers of arguments that a command accepts. -/
inductive Arguments where
  | exactly (n : Nat)
  | noneOrTwo
  | upTo (n : Nat)
deriving DecidableEq, Repr

/-- The accepted numbers in words. -/
def Arguments.text : Arguments → String
  | exactly n => toString n
  | noneOrTwo => "either 0 or 2"
  | upTo n => "at most " ++ toString n

/-- What is wrong with a line. -/
inductive Fault where
  | notIndented
  | indentedTooLittle
  | indentedTooMuch
  | noSuchCommand (letter : Char)
  | wrongCount (command : Opcode) (expected : Arguments) (found : Nat)
  | noAssignment
  | noIdentifier (found : String)
  | noLiteral (spec : String)
  | cannotTravel (argument : String)
  | blockFull (element : String) (limit : Nat)
  | rejected (cause : Rejection)
deriving DecidableEq, Repr

/-- The message for a fault. -/
def Fault.message : Fault → String
  | notIndented => "indentation expected"
  | indentedTooLittle => "not enough indentation"
  | indentedTooMuch => "too much indentation"
  | noSuchCommand letter => "unknown command " ++ Text.quotedChar letter
  | wrongCount command expected found =>
    "found " ++ toString found ++ " arguments for command " ++ command.letter.toString ++
      ", expecting " ++ expected.text
  | noAssignment => "assignment expected"
  | noIdentifier found =>
    "identifier expected on left-hand side of assignment, found \"" ++ found ++ "\""
  | noLiteral spec => "invalid value specification \"" ++ spec ++ "\""
  | cannotTravel argument =>
    "invalid string \"" ++ argument ++ "\" (only ASCII without NUL is allowed)"
  | blockFull element limit =>
    "too many assignments for element \"" ++ element ++ "\" (at most " ++ toString limit ++ ")"
  | rejected cause => cause.message

end Patchbay.Script

namespace Patchbay

/-- A fault on a line of a script, counted from 1. -/
structure ScriptError where
  line : Nat
  fault : Script.Fault
deriving DecidableEq, Repr

/-- The message for an error in a script. -/
def ScriptError.message (error : ScriptError) : String :=
  "line " ++ toString error.line ++ ": " ++ error.fault.message

end Patchbay
