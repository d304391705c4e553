/-!
# Type tags

Every value in an instruction stream is preceded by the one-character code of its type.  There are
eight integer types, told apart by width and sign, and four others.  The codes are shared with the
stores that read the streams, so the table of codes is part of the format.
-/

namespace Patchbay

/-- The width of an integer type. -/
inductive Width where
  | one
  | two
  | four
  | eight
deriving DecidableEq, Repr

/-- The number of bytes of a width. -/
def Width.bytes : Width → Nat
  | one => 1
  | two => 2
  | four => 4
  | eight => 8

/-- An integer type of fixed width. -/
structure IntegerType where
  signed : Bool
  width : Width
deriving DecidableEq, Repr

namespace IntegerType

/-- The number of patterns of a type: the integers of the type are read modulo this. -/
def modulus (type : IntegerType) : Nat :=
  Nat.pow 256 type.width.bytes

/-- The least value of a type. -/
def least (type : IntegerType) : Int :=
  if type.signed then -(type.modulus / 2 : Nat) else 0

/-- The greatest value of a type. -/
def greatest (type : IntegerType) : Int :=
  if type.signed then (type.modulus / 2 : Nat) - 1 else type.modulus - 1

end IntegerType

/-- The type of a value. -/
inductive Tag where
  | integer (type : IntegerType)
  | bool
  /-- A double precision number, least significant byte first. -/
  | double
  /-- A packed number of nine whole bits and four fractional bits. -/
  | fixPoint
  /-- ASCII characters up to a NUL. -/
  | string
deriving DecidableEq, Repr

namespace Tag

/-- All tags, in the order of the format's table. -/
def all : List Tag :=
  [.integer ⟨false, .one⟩, .integer ⟨false, .two⟩, .integer ⟨false, .four⟩,
    .integer ⟨false, .eight⟩, .integer ⟨true, .one⟩, .integer ⟨true, .two⟩,
    .integer ⟨true, .four⟩, .integer ⟨true, .eight⟩, .bool, .double, .fixPoint, .string]

/-- The tag of an integer that is written without a type. -/
def bareInteger : Tag := .integer ⟨true, .two⟩

/-- The code of a tag. -/
def code : Tag → Char
  | integer ⟨false, .one⟩ => 'y'
  | integer ⟨false, .two⟩ => 'q'
  | integer ⟨false, .four⟩ => 'u'
  | integer ⟨false, .eight⟩ => 't'
  | integer ⟨true, .one⟩ => 'Y'
  | integer ⟨true, .two⟩ => 'i'
  | integer ⟨true, .four⟩ => 'n'
  | integer ⟨true, .eight⟩ => 'x'
  | bool => 'b'
  | double => 'd'
  | fixPoint => 'D'
  | string => 's'

/-- The name of a tag in messages and documents. -/
def name : Tag → String
  | integer ⟨false, .one⟩ => "uint8"
  | integer ⟨false, .two⟩ => "uint16"
  | integer ⟨false, .four⟩ => "uint32"
  | integer ⟨false, .eight⟩ => "uint64"
  | integer ⟨true, .one⟩ => "int8"
  | integer ⟨true, .two⟩ => "int16"
  | integer ⟨true, .four⟩ => "int32"
  | integer ⟨true, .eight⟩ => "int64"
  | bool => "bool"
  | double => "double"
  | fixPoint => "fixpoint"
  | string => "string"

/-- The number of bytes of an encoded value; strings have none of their own. -/
def width? : Tag → Option Nat
  | integer type => some type.width.bytes
  | bool => some 1
  | double => some 8
  | fixPoint => some 2
  | string => none

/-- The tag with the given code. -/
def ofCode? (c : Char) : Option Tag :=
  all.find? (fun tag => tag.code == c)

/-- The tag whose code is written as the given byte. -/
def ofByte? (b : UInt8) : Option Tag :=
  ofCode? (Char.ofNat b.toNat)

/-- The byte that the code of a tag is written as. -/
def codeByte (tag : Tag) : UInt8 :=
  UInt8.ofNat tag.code.toNat

theorem mem_all (tag : Tag) : tag ∈ all := by
  rcases tag with ⟨signed, width⟩ | _ | _ | _ | _
  · cases signed <;> cases width <;> decide
  all_goals decide

theorem ofCode?_code (tag : Tag) : ofCode? tag.code = some tag := by
  rcases tag with ⟨signed, width⟩ | _ | _ | _ | _
  · cases signed <;> cases width <;> decide
  all_goals decide

theorem code_of_ofCode? {c : Char} {tag : Tag} (h : ofCode? c = some tag) : tag.code = c := by
  unfold ofCode? at h
  have hcode := List.find?_some h
  exact eq_of_beq hcode

theorem ofByte?_codeByte (tag : Tag) : ofByte? tag.codeByte = some tag := by
  rcases tag with ⟨signed, width⟩ | _ | _ | _ | _
  · cases signed <;> cases width <;> decide
  all_goals decide

end Tag

end Patchbay
