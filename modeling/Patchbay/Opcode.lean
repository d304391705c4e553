/-!
# Opcodes

Every record of a stream starts with one byte, the letter of the command that it was compiled
from.  The opcode alone determines what follows:

    I   id name, or three NULs to clear all instances
    i   name
    S   element count assignments
    U   element count assignments
    u   element assignment
    d   element control
    C   sink source
    c   from to, where an empty endpoint stands for any
-/

namespace Patchbay

/-- The kind of an instruction. -/
inductive Opcode where
  /-- Adds an instance, or clears all instances. -/
  | addInstance
  | removeInstance
  /-- Replaces all values of an element. -/
  | setValues
  /-- Updates some values of an element. -/
  | updateValues
  | updateValue
  | deleteValue
  | connect
  | disconnect
deriving DecidableEq, Repr

namespace Opcode

/-- All opcodes, in the order of the table. -/
def all : List Opcode :=
  [addInstance, removeInstance, setValues, updateValues, updateValue, deleteValue, connect,
    disconnect]

/-- The command letter. -/
def letter : Opcode → Char
  | addInstance => 'I'
  | removeInstance => 'i'
  | setValues => 'S'
  | updateValues => 'U'
  | updateValue => 'u'
  | deleteValue => 'd'
  | connect => 'C'
  | disconnect => 'c'

/-- The command with the given letter. -/
def ofLetter? (c : Char) : Option Opcode :=
  all.find? (fun opcode => opcode.letter == c)

/-- The byte of an opcode. -/
def byte (opcode : Opcode) : UInt8 :=
  UInt8.ofNat opcode.letter.toNat

/-- The opcode with the given byte. -/
def ofByte? (b : UInt8) : Option Opcode :=
  ofLetter? (Char.ofNat b.toNat)

/-- The name of an opcode. -/
def name : Opcode → String
  | addInstance => "AddInstance"
  | removeInstance => "RemoveInstance"
  | setValues => "SetValues"
  | updateValues => "UpdateValues"
  | updateValue => "UpdateValue"
  | deleteValue => "DeleteValue"
  | connect => "Connect"
  | disconnect => "Disconnect"

theorem letter_of_ofLetter? {c : Char} {opcode : Opcode} (h : ofLetter? c = some opcode) :
    opcode.letter = c := by
  unfold ofLetter? at h
  have hletter := List.find?_some h
  exact eq_of_beq hletter

theorem ofByte?_byte (opcode : Opcode) : ofByte? opcode.byte = some opcode := by
  cases opcode <;> decide

end Opcode

end Patchbay
