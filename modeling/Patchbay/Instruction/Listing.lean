import Patchbay.Instruction.Decoder
import Patchbay.Palette

/-!
# Listings

A listing shows one record per line after its offset.  The assignments of a block follow on
indented lines, each written as a literal that a script could hold:

    0000  I  clear all instances
    0004  S  "volume"  (2 values)
            gain = i(5)
            mute = False
-/

namespace Patchbay.Listing

/-- A name between double quotes. -/
def name (s : String) : Segment :=
  ⟨.green, "\"" ++ s ++ "\""⟩

/-- An endpoint of a connection; the empty one stands for any. -/
def endpoint (s : String) : Segment :=
  if s.isEmpty then ⟨.dim, "*"⟩ else name s

/-- An assignment with its value as a literal. -/
def assignment (a : Assignment) : List Segment :=
  [.plain (a.name ++ " = "), ⟨.green, a.value.literal⟩]

/-- The number of values of a block. -/
def count (n : Nat) : Segment :=
  ⟨.dim, "(" ++ toString n ++ (if n == 1 then " value)" else " values)")⟩

/-- An element and the values of its block. -/
def block (element : String) (values : List Assignment) : List Segment :=
  [name element, .plain "  ", count values.length] ++
    values.flatMap (fun a => .plain "\n        " :: assignment a)

/-- The operands of an instruction. -/
def operands : Instruction → List Segment
  | .clearInstances => [.plain "clear all instances"]
  | .addInstance id instanceName => [name id, .plain " ", name instanceName]
  | .removeInstance instanceName => [name instanceName]
  | .setValues element values => block element values
  | .updateValues element values => block element values
  | .updateValue element value => [name element, .plain "  "] ++ assignment value
  | .deleteValue element control => [name element, .plain " ", name control]
  | .connect sink source => [name sink, .plain " ", name source]
  | .disconnect origin destination => [endpoint origin, .plain " ", endpoint destination]

/-- The line or lines of a record. -/
def record (decoded : Located) : List Segment :=
  [⟨.dim, Text.paddedHexadecimal 4 decoded.offset⟩, .plain "  ",
    ⟨.blue, decoded.instruction.opcode.letter.toString⟩, .plain "  "] ++
    operands decoded.instruction ++ [.plain "\n"]

/-- The listing of a stream; a stream with a fault has none. -/
def ofStream (color : Bool) (stream : Bytes) : Except StreamFault String :=
  (recordsOf stream).map (fun records => Segment.render color (records.flatMap record))

end Patchbay.Listing
