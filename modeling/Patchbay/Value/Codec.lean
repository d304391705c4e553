import Patchbay.Number.Reading
import Patchbay.Text.Blank
import Patchbay.Value.Basic

/-!
# From literals to values and from bytes to values

Each tag has two readers: one for the literals of a script, which says why it rejects one, and one
for bytes of a stream, which gives nothing for bytes that no value of the tag is written as.
-/

namespace Patchbay

namespace IntegerType

/-- The value that an integer is kept as. -/
def toValue (type : IntegerType) (n : Int) : Value :=
  if type.signed then .signed n else .unsigned n.toNat

/-- Rejects a value below the range, shown as `text`. -/
def belowRange (type : IntegerType) (text : String) : Rejection :=
  .belowRange text (toString type.least)

/-- Rejects a value above the range, shown as `text`. -/
def aboveRange (type : IntegerType) (text : String) : Rejection :=
  .aboveRange text (toString type.greatest)

/-- Reads a literal with optional blanks around it.  A number outside the range is shown by its
value if 128 bits hold it, and as it was written otherwise. -/
def ofLiteral (type : IntegerType) (literal : List Char) : Except Rejection Value :=
  let text := Text.trim literal
  match IntegerReading.ofText text with
  | .malformed => .error (.notAnInteger (String.ofList literal))
  | .underflow => .error (type.belowRange (String.ofList text))
  | .overflow => .error (type.aboveRange (String.ofList text))
  | .number n =>
    if n < type.least then .error (type.belowRange (toString n))
    else if type.greatest < n then .error (type.aboveRange (toString n))
    else .ok (type.toValue n)

/-- The integer of a type with the given bit pattern. -/
def ofPattern (type : IntegerType) (pattern : Nat) : Value :=
  if type.signed && type.modulus / 2 ≤ pattern then .signed ((pattern : Int) - type.modulus)
  else type.toValue pattern

end IntegerType

/-- Reads a floating point literal with optional blanks around it. -/
def Binary64.ofLiteral (literal : List Char) : Except Rejection Binary64 :=
  match Binary64.ofText? (Text.trim literal) with
  | some v => .ok v
  | none => .error (.notANumber (String.ofList literal))

/-- Reads a fix point literal with optional blanks around it. -/
def FixPoint.ofLiteral (literal : List Char) : Except Rejection FixPoint := do
  FixPoint.ofBinary64 (← Binary64.ofLiteral literal)

namespace Tag

/-- The value of a literal for a tag. -/
def valueOfLiteral (tag : Tag) (literal : List Char) : Except Rejection Value :=
  match tag with
  | integer type => type.ofLiteral literal
  | bool =>
    if literal == "True".toList then .ok (.bool true)
    else if literal == "False".toList then .ok (.bool false)
    else .error (.notABoolean (String.ofList literal))
  | double => (Binary64.ofLiteral literal).map .double
  | fixPoint => (FixPoint.ofLiteral literal).map .fixPoint
  | string =>
    if canTravel literal then .ok (.string (String.ofList literal))
    else .error (.notAWireString (String.ofList literal))

/-- Reads a literal under a tag. -/
def encode (tag : Tag) (literal : List Char) : Except Rejection TaggedValue :=
  (tag.valueOfLiteral literal).map (TaggedValue.mk tag)

/-- The characters of bytes below 128. -/
def asciiText (bytes : Bytes) : String :=
  String.ofList (bytes.map (fun b => Char.ofNat b.toNat))

/-- Reads the bytes of a value under a tag, a string without its terminator. -/
def decode? (tag : Tag) (bytes : Bytes) : Option Value :=
  match tag with
  | integer type =>
    if bytes.length == type.width.bytes then some (type.ofPattern (ofLittleEndian bytes))
    else none
  | bool =>
    match bytes with
    | [b] => if b == 0 then some (.bool false) else if b == 1 then some (.bool true) else none
    | _ => none
  | double =>
    if bytes.length == 8 then some (.double ⟨UInt64.ofNat (ofLittleEndian bytes)⟩) else none
  | fixPoint =>
    if bytes.length == 2 then some (.fixPoint ⟨UInt16.ofNat (ofLittleEndian bytes)⟩) else none
  | string =>
    if bytes.all (fun b => b < 128 && b != 0) then some (.string (asciiText bytes)) else none

end Tag

end Patchbay
