import Patchbay.Opcode
import Patchbay.Value.Basic

/-!
# Instructions

An instruction changes the patch that a stream describes: instances of devices, the values of
their elements, and the audio connections between them.  Each has a one-line description for the
progress log.
-/

namespace Patchbay

/-- A control of an element and the value it is given. -/
structure Assignment where
  name : String
  value : TaggedValue
deriving DecidableEq, Repr

/-- One instruction of a stream. -/
inductive Instruction where
  | clearInstances
  | addInstance (id name : String)
  | removeInstance (name : String)
  | setValues (element : String) (values : List Assignment)
  | updateValues (element : String) (values : List Assignment)
  | updateValue (element : String) (value : Assignment)
  | deleteValue (element control : String)
  | connect (sink source : String)
  /-- Removes connections; an empty endpoint stands for any. -/
  | disconnect (origin destination : String)
deriving DecidableEq, Repr

namespace Instruction

/-- The opcode that an instruction is written with. -/
def opcode : Instruction → Opcode
  | clearInstances => .addInstance
  | addInstance _ _ => .addInstance
  | removeInstance _ => .removeInstance
  | setValues _ _ => .setValues
  | updateValues _ _ => .updateValues
  | updateValue _ _ => .updateValue
  | deleteValue _ _ => .deleteValue
  | connect _ _ => .connect
  | disconnect _ _ => .disconnect

/-- A name between double quotes. -/
def inQuotes (name : String) : String :=
  "\"" ++ name ++ "\""

/-- What an instruction that removes connections removes. -/
def removedConnections (origin destination : String) : String :=
  if origin.isEmpty && destination.isEmpty then "all audio connections"
  else if destination.isEmpty then "audio connections from " ++ inQuotes origin
  else if origin.isEmpty then "audio connections to " ++ inQuotes destination
  else "audio connections from " ++ inQuotes origin ++ " to " ++ inQuotes destination

/-- What an instruction does, apart from its opcode. -/
def effect : Instruction → String
  | clearInstances => "clear all"
  | addInstance id name => "instance ID " ++ inQuotes id ++ ", name " ++ inQuotes name
  | removeInstance name => "instance " ++ inQuotes name ++ " removed"
  | setValues element _ => "set all values for element " ++ inQuotes element
  | updateValues element _ => "update some values for element " ++ inQuotes element
  | updateValue element value =>
    "update control " ++ inQuotes value.name ++ " for element " ++ inQuotes element
  | deleteValue element control =>
    "delete value " ++ inQuotes control ++ " for element " ++ inQuotes element
  | connect sink source =>
    "make audio connection from " ++ inQuotes sink ++ " to " ++ inQuotes source
  | disconnect origin destination => "remove " ++ removedConnections origin destination

/-- The description of an instruction in the progress log. -/
def description (instruction : Instruction) : String :=
  instruction.opcode.letter.toString ++ " (" ++ instruction.effect ++ ")"

end Instruction

end Patchbay
