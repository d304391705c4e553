import Patchbay.Instruction.Basic

/-!
# The wire format

A stream is the concatenation of its records, without header and without lengths.  Strings end
with a NUL, lists of assignments are preceded by their number in one byte, and a value is preceded
by the code of its type.
-/

namespace Patchbay

/-- The byte that ends a string. -/
def terminator : UInt8 := 0

/-- The bytes of a string with its terminator. -/
def wireString (s : String) : Bytes :=
  Utf8.encode s.toList ++ [terminator]

namespace TaggedValue

/-- The code of the type and the value; a string gets its terminator. -/
def wire (v : TaggedValue) : Bytes :=
  v.tag.codeByte :: v.bytes ++ (if v.tag = .string then [terminator] else [])

end TaggedValue

namespace Assignment

/-- The name, the code of the type and the value. -/
def wire (assignment : Assignment) : Bytes :=
  wireString assignment.name ++ assignment.value.wire

/-- The number of assignments in one byte, and the assignments. -/
def wireList (assignments : List Assignment) : Bytes :=
  UInt8.ofNat assignments.length :: assignments.flatMap wire

end Assignment

namespace Instruction

/-- The bytes of an instruction after its opcode. -/
def operands : Instruction → Bytes
  | clearInstances => [0, 0, 0]
  | addInstance id name => wireString id ++ wireString name
  | removeInstance name => wireString name
  | setValues element values => wireString element ++ Assignment.wireList values
  | updateValues element values => wireString element ++ Assignment.wireList values
  | updateValue element value => wireString element ++ value.wire
  | deleteValue element control => wireString element ++ wireString control
  | connect sink source => wireString sink ++ wireString source
  | disconnect origin destination => wireString origin ++ wireString destination

/-- The record of an instruction. -/
def wire (instruction : Instruction) : Bytes :=
  instruction.opcode.byte :: instruction.operands

end Instruction

end Patchbay
