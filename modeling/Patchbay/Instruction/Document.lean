import Patchbay.Instruction.Decoder
import Patchbay.Json

/-!
# Records as JSON

A record is an object with its offset, the name of its operation and its operands.  A stream is an
object with its size and its records.
-/

namespace Patchbay

/-- A value as JSON: a number, a truth value or a string. -/
def Value.json : Value → Json
  | unsigned n => .number (toString n)
  | signed n => .number (toString n)
  | bool b => .bool b
  | double v => .number (Layout.json.text v)
  | fixPoint p => .number (Layout.json.text p.toBinary64)
  | string s => .string s

/-- An assignment as an object. -/
def Assignment.json (a : Assignment) : Json :=
  .object [("name", .string a.name), ("type", .string a.value.tag.name),
    ("value", a.value.value.json)]

namespace Instruction

/-- The name of the operation. -/
def operation : Instruction → String
  | clearInstances => "clear_instances"
  | addInstance _ _ => "add_instance"
  | removeInstance _ => "remove_instance"
  | setValues _ _ => "set_values"
  | updateValues _ _ => "update_values"
  | updateValue _ _ => "update_value"
  | deleteValue _ _ => "delete_value"
  | connect _ _ => "connect"
  | disconnect _ _ => "disconnect"

/-- The operands as fields of an object. -/
def fields : Instruction → List (String × Json)
  | clearInstances => []
  | addInstance id name => [("id", .string id), ("name", .string name)]
  | removeInstance name => [("name", .string name)]
  | setValues element values =>
    [("element", .string element), ("values", .array (values.map Assignment.json))]
  | updateValues element values =>
    [("element", .string element), ("values", .array (values.map Assignment.json))]
  | updateValue element value => [("element", .string element), ("value", value.json)]
  | deleteValue element control => [("element", .string element), ("control", .string control)]
  | connect sink source => [("sink", .string sink), ("source", .string source)]
  | disconnect origin destination => [("from", .string origin), ("to", .string destination)]

end Instruction

/-- A record as an object. -/
def Located.json (decoded : Located) : Json :=
  .object ([("offset", .number (toString decoded.offset)),
    ("op", .string decoded.instruction.operation)] ++ decoded.instruction.fields)

/-- The document of a stream; a stream with a fault has none. -/
def streamDocument (stream : Bytes) : Except StreamFault Json :=
  (recordsOf stream).map fun records =>
    .object [("size", .number (toString stream.length)),
      ("instructions", .array (records.map Located.json))]

end Patchbay
