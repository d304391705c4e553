import Patchbay.Text.Utf8
import Patchbay.Value.FixPoint
import Patchbay.Value.Tag

/-!
# Typed values

A value does not know its width: the same number can be written as any integer type that holds it.
A typed value is a value with the tag it travels under, and its bytes follow from the two.
-/

namespace Patchbay

/-- A value, independent of its width. -/
inductive Value where
  | unsigned (n : Nat)
  | signed (n : Int)
  | bool (b : Bool)
  | double (v : Binary64)
  | fixPoint (p : FixPoint)
  | string (s : String)
deriving DecidableEq, Repr

/-- A value with the tag of its type. -/
structure TaggedValue where
  tag : Tag
  value : Value
deriving DecidableEq, Repr

/-- The `width` low bytes of a number, least significant first. -/
def littleEndian : Nat → Nat → Bytes
  | 0, _ => []
  | width + 1, n => UInt8.ofNat (n % 256) :: littleEndian width (n / 256)

/-- The number whose bytes are given, least significant first. -/
def ofLittleEndian : Bytes → Nat
  | [] => 0
  | b :: rest => b.toNat + 256 * ofLittleEndian rest

/-- Whether a text can travel as a string: ASCII characters without NUL. -/
def canTravel (text : List Char) : Bool :=
  text.all (fun c => c.toNat < 128 && c.toNat != 0)

namespace Value

/-- The bytes of a value at a width in bytes.  An integer in the range of its type is written in
two's complement; a string is written without its terminator. -/
def bytes (width : Nat) : Value → Bytes
  | unsigned n => littleEndian width n
  | signed n => littleEndian width (n % Nat.pow 256 width).toNat
  | bool b => [if b then 1 else 0]
  | double v => littleEndian 8 v.bits.toNat
  | fixPoint p => littleEndian 2 p.bits.toNat
  | string s => Utf8.encode s.toList

/-- The text of a value. -/
def text : Value → String
  | unsigned n => toString n
  | signed n => toString n
  | bool b => if b then "True" else "False"
  | double v => Layout.value.text v
  | fixPoint p => p.text
  | string s => s

end Value

namespace TaggedValue

/-- The bytes of a typed value; those of a string have no terminator. -/
def bytes (v : TaggedValue) : Bytes :=
  v.value.bytes (v.tag.width?.getD 0)

/-- The literal of a typed value in a script.  A string is put between double quotes, or between
single ones if it holds a double quote; nothing inside is escaped. -/
def literal (v : TaggedValue) : String :=
  match v.value with
  | .string s =>
    if s.toList.contains '"' then "'" ++ s ++ "'" else "\"" ++ s ++ "\""
  | .bool _ => v.value.text
  | value => v.tag.code.toString ++ "(" ++ value.text ++ ")"

end TaggedValue

end Patchbay
