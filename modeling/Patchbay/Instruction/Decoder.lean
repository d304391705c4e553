import Patchbay.Instruction.Wire
import Patchbay.Text.Digits
import Patchbay.Value.Codec

/-!
# Decoding a stream

A stream has no lengths: where a record ends follows from its opcode and operands.  The decoder
walks a cursor over the bytes; each reader takes what it reads off the front and answers with it
and the cursor after it, or with the fault and the offset of the fault.  Decoding stops at the
first fault, and the records before it stand.
-/

namespace Patchbay

/-- Why a stream cannot be decoded further. -/
inductive StreamFault where
  | noSuchOpcode (offset : Nat) (byte : UInt8)
  /-- The record that starts at the offset is cut short. -/
  | cutShort (record : Nat)
  | openString (offset : Nat)
  | nonAsciiString (offset : Nat)
  | noSuchTag (offset : Nat) (byte : UInt8)
  | noSuchValue (offset : Nat) (tag : Tag)
deriving DecidableEq, Repr

/-- The message for a fault. -/
def StreamFault.message : StreamFault → String
  | noSuchOpcode offset byte =>
    "unknown opcode 0x" ++ Text.paddedHexadecimal 2 byte.toNat ++ " at offset " ++ toString offset
  | cutShort record => "record at offset " ++ toString record ++ " is truncated"
  | openString offset => "unterminated string at offset " ++ toString offset
  | nonAsciiString offset => "string at offset " ++ toString offset ++ " is not ASCII"
  | noSuchTag offset byte =>
    "unknown type code 0x" ++ Text.paddedHexadecimal 2 byte.toNat ++ " at offset " ++
      toString offset
  | noSuchValue offset tag =>
    "invalid " ++ tag.name ++ " value at offset " ++ toString offset

/-- A place in a stream: the bytes that are left and the offset of the first of them. -/
structure Cursor where
  offset : Nat
  rest : Bytes
deriving DecidableEq, Repr

namespace Cursor

/-- Reads one byte of the record that starts at `record`. -/
def byte (record : Nat) (cursor : Cursor) : Except StreamFault (UInt8 × Cursor) :=
  match cursor.rest with
  | [] => .error (.cutShort record)
  | b :: rest => .ok (b, ⟨cursor.offset + 1, rest⟩)

/-- Reads `count` bytes of the record that starts at `record`. -/
def take (record count : Nat) (cursor : Cursor) : Except StreamFault (Bytes × Cursor) :=
  if count ≤ cursor.rest.length then
    .ok (cursor.rest.take count, ⟨cursor.offset + count, cursor.rest.drop count⟩)
  else .error (.cutShort record)

/-- Reads a string up to its terminator. -/
def string (cursor : Cursor) : Except StreamFault (String × Cursor) :=
  let raw := cursor.rest.takeWhile (· != terminator)
  match cursor.rest.dropWhile (· != terminator) with
  | [] => .error (.openString cursor.offset)
  | _ :: rest =>
    if raw.all (· < 128) then
      .ok (Tag.asciiText raw, ⟨cursor.offset + raw.length + 1, rest⟩)
    else .error (.nonAsciiString cursor.offset)

/-- Reads the value of a tag. -/
def value (record : Nat) (tag : Tag) (cursor : Cursor) :
    Except StreamFault (TaggedValue × Cursor) :=
  match tag.width? with
  | some width =>
    match cursor.take record width with
    | .error fault => .error fault
    | .ok (bytes, next) =>
      match tag.decode? bytes with
      | some v => .ok (⟨tag, v⟩, next)
      | none => .error (.noSuchValue cursor.offset tag)
  | none =>
    match cursor.string with
    | .error fault => .error fault
    | .ok (s, next) => .ok (⟨tag, .string s⟩, next)

/-- Reads the code of a type. -/
def tag (record : Nat) (cursor : Cursor) : Except StreamFault (Tag × Cursor) :=
  match cursor.byte record with
  | .error fault => .error fault
  | .ok (b, next) =>
    match Tag.ofByte? b with
    | some tag => .ok (tag, next)
    | none => .error (.noSuchTag cursor.offset b)

/-- Reads an assignment. -/
def assignment (record : Nat) (cursor : Cursor) : Except StreamFault (Assignment × Cursor) := do
  let (name, cursor) ← cursor.string
  let (tag, cursor) ← cursor.tag record
  let (value, cursor) ← cursor.value record tag
  return (⟨name, value⟩, cursor)

/-- Reads `count` assignments. -/
def assignments (record : Nat) : Nat → Cursor → Except StreamFault (List Assignment × Cursor)
  | 0, cursor => .ok ([], cursor)
  | count + 1, cursor => do
    let (first, cursor) ← cursor.assignment record
    let (others, cursor) ← assignments record count cursor
    return (first :: others, cursor)

/-- Reads an element and the values assigned to it. -/
def block (record : Nat) (cursor : Cursor) :
    Except StreamFault ((String × List Assignment) × Cursor) := do
  let (element, cursor) ← cursor.string
  let (count, cursor) ← cursor.byte record
  let (values, cursor) ← assignments record count.toNat cursor
  return ((element, values), cursor)

/-- Reads two strings. -/
def twoStrings (cursor : Cursor) : Except StreamFault ((String × String) × Cursor) := do
  let (first, cursor) ← cursor.string
  let (second, cursor) ← cursor.string
  return ((first, second), cursor)

/-- Tells clearing all instances from adding one: two empty strings and one more NUL clear. -/
def instance? (id name : String) (cursor : Cursor) : Instruction × Cursor :=
  match cursor.rest with
  | b :: rest =>
    if id.isEmpty && name.isEmpty && b == terminator then
      (.clearInstances, ⟨cursor.offset + 1, rest⟩)
    else (.addInstance id name, cursor)
  | [] => (.addInstance id name, cursor)

/-- Reads the operands of an opcode. -/
def operands (record : Nat) (opcode : Opcode) (cursor : Cursor) :
    Except StreamFault (Instruction × Cursor) :=
  match opcode with
  | .addInstance => do
    let ((id, name), cursor) ← cursor.twoStrings
    return cursor.instance? id name
  | .removeInstance => do
    let (name, cursor) ← cursor.string
    return (.removeInstance name, cursor)
  | .setValues => do
    let ((element, values), cursor) ← cursor.block record
    return (.setValues element values, cursor)
  | .updateValues => do
    let ((element, values), cursor) ← cursor.block record
    return (.updateValues element values, cursor)
  | .updateValue => do
    let (element, cursor) ← cursor.string
    let (value, cursor) ← cursor.assignment record
    return (.updateValue element value, cursor)
  | .deleteValue => do
    let ((element, control), cursor) ← cursor.twoStrings
    return (.deleteValue element control, cursor)
  | .connect => do
    let ((sink, source), cursor) ← cursor.twoStrings
    return (.connect sink source, cursor)
  | .disconnect => do
    let ((origin, destination), cursor) ← cursor.twoStrings
    return (.disconnect origin destination, cursor)

/-- Reads the record that starts at the cursor. -/
def instruction (cursor : Cursor) : Except StreamFault (Instruction × Cursor) := do
  let (b, next) ← cursor.byte cursor.offset
  match Opcode.ofByte? b with
  | none => .error (.noSuchOpcode cursor.offset b)
  | some opcode => next.operands cursor.offset opcode

/-! ## Progress

A reader that succeeds never leaves more bytes than it found, and reading a record takes at least
the byte of its opcode.  Decoding a stream ends for this reason. -/

theorem bind_eq_ok {α β : Type} {first : Except StreamFault α}
    {next : α → Except StreamFault β} {b : β} (h : (first >>= next) = .ok b) :
    ∃ a, first = .ok a ∧ next a = .ok b := by
  cases first with
  | error fault => cases h
  | ok a => exact ⟨a, rfl, h⟩

theorem length_rest_of_byte {record : Nat} {cursor next : Cursor} {b : UInt8}
    (h : cursor.byte record = .ok (b, next)) : next.rest.length < cursor.rest.length := by
  unfold byte at h
  split at h
  · cases h
  · next heq => cases h; simp [heq]

theorem length_rest_of_take {record count : Nat} {cursor next : Cursor} {bytes : Bytes}
    (h : cursor.take record count = .ok (bytes, next)) :
    next.rest.length ≤ cursor.rest.length := by
  unfold take at h
  split at h
  · cases h; simp
  · cases h

theorem length_rest_of_string {cursor next : Cursor} {s : String}
    (h : cursor.string = .ok (s, next)) : next.rest.length ≤ cursor.rest.length := by
  unfold string at h
  simp only at h
  split at h
  · cases h
  · next heq =>
    split at h
    · cases h
      have := (cursor.rest.dropWhile_suffix (· != terminator)).length_le
      rw [heq] at this
      simp at this ⊢
      omega
    · cases h

theorem length_rest_of_value {record : Nat} {tag : Tag} {cursor next : Cursor} {v : TaggedValue}
    (h : cursor.value record tag = .ok (v, next)) : next.rest.length ≤ cursor.rest.length := by
  unfold value at h
  split at h
  · split at h
    · cases h
    · next htake =>
      split at h
      · cases h; exact length_rest_of_take htake
      · cases h
  · split at h
    · cases h
    · next hstring => cases h; exact length_rest_of_string hstring

theorem length_rest_of_tag {record : Nat} {cursor next : Cursor} {t : Tag}
    (h : cursor.tag record = .ok (t, next)) : next.rest.length ≤ cursor.rest.length := by
  unfold tag at h
  split at h
  · cases h
  · next hbyte =>
    split at h
    · cases h; exact Nat.le_of_lt (length_rest_of_byte hbyte)
    · cases h

theorem length_rest_of_assignment {record : Nat} {cursor next : Cursor} {a : Assignment}
    (h : cursor.assignment record = .ok (a, next)) : next.rest.length ≤ cursor.rest.length := by
  obtain ⟨⟨name, c₁⟩, h₁, h⟩ := bind_eq_ok h
  obtain ⟨⟨tag, c₂⟩, h₂, h⟩ := bind_eq_ok h
  obtain ⟨⟨value, c₃⟩, h₃, h⟩ := bind_eq_ok h
  cases h
  have := length_rest_of_string h₁
  have := length_rest_of_tag h₂
  have := length_rest_of_value h₃
  omega

theorem length_rest_of_assignments {record count : Nat} {cursor next : Cursor}
    {as : List Assignment} (h : assignments record count cursor = .ok (as, next)) :
    next.rest.length ≤ cursor.rest.length := by
  induction count generalizing cursor as with
  | zero => cases h; exact Nat.le_refl _
  | succ count ih =>
    obtain ⟨⟨first, c₁⟩, h₁, h⟩ := bind_eq_ok h
    obtain ⟨⟨others, c₂⟩, h₂, h⟩ := bind_eq_ok h
    cases h
    have := length_rest_of_assignment h₁
    have := ih h₂
    omega

theorem length_rest_of_block {record : Nat} {cursor next : Cursor}
    {b : String × List Assignment} (h : cursor.block record = .ok (b, next)) :
    next.rest.length ≤ cursor.rest.length := by
  obtain ⟨⟨element, c₁⟩, h₁, h⟩ := bind_eq_ok h
  obtain ⟨⟨count, c₂⟩, h₂, h⟩ := bind_eq_ok h
  obtain ⟨⟨values, c₃⟩, h₃, h⟩ := bind_eq_ok h
  cases h
  have := length_rest_of_string h₁
  have := length_rest_of_byte h₂
  have := length_rest_of_assignments h₃
  omega

theorem length_rest_of_twoStrings {cursor next : Cursor} {s : String × String}
    (h : cursor.twoStrings = .ok (s, next)) : next.rest.length ≤ cursor.rest.length := by
  obtain ⟨⟨first, c₁⟩, h₁, h⟩ := bind_eq_ok h
  obtain ⟨⟨second, c₂⟩, h₂, h⟩ := bind_eq_ok h
  cases h
  have := length_rest_of_string h₁
  have := length_rest_of_string h₂
  omega

theorem length_rest_instance? (id name : String) (cursor : Cursor) :
    (cursor.instance? id name).2.rest.length ≤ cursor.rest.length := by
  unfold instance?
  split
  · next heq => split <;> simp [heq]
  · exact Nat.le_refl _

theorem length_rest_of_operands {record : Nat} {opcode : Opcode} {cursor next : Cursor}
    {i : Instruction} (h : cursor.operands record opcode = .ok (i, next)) :
    next.rest.length ≤ cursor.rest.length := by
  cases opcode with
  | addInstance =>
    obtain ⟨⟨⟨id, name⟩, c₁⟩, h₁, h⟩ := bind_eq_ok h
    have hstrings := length_rest_of_twoStrings h₁
    have hinstance := length_rest_instance? id name c₁
    have hnext : c₁.instance? id name = (i, next) := Except.ok.inj h
    simp only [hnext] at hinstance
    omega
  | removeInstance =>
    obtain ⟨⟨name, c₁⟩, h₁, h⟩ := bind_eq_ok h
    cases h
    exact length_rest_of_string h₁
  | setValues =>
    obtain ⟨⟨⟨element, values⟩, c₁⟩, h₁, h⟩ := bind_eq_ok h
    cases h
    exact length_rest_of_block h₁
  | updateValues =>
    obtain ⟨⟨⟨element, values⟩, c₁⟩, h₁, h⟩ := bind_eq_ok h
    cases h
    exact length_rest_of_block h₁
  | updateValue =>
    obtain ⟨⟨element, c₁⟩, h₁, h⟩ := bind_eq_ok h
    obtain ⟨⟨value, c₂⟩, h₂, h⟩ := bind_eq_ok h
    cases h
    have := length_rest_of_string h₁
    have := length_rest_of_assignment h₂
    omega
  | deleteValue =>
    obtain ⟨⟨⟨element, control⟩, c₁⟩, h₁, h⟩ := bind_eq_ok h
    cases h
    exact length_rest_of_twoStrings h₁
  | connect =>
    obtain ⟨⟨⟨sink, source⟩, c₁⟩, h₁, h⟩ := bind_eq_ok h
    cases h
    exact length_rest_of_twoStrings h₁
  | disconnect =>
    obtain ⟨⟨⟨origin, destination⟩, c₁⟩, h₁, h⟩ := bind_eq_ok h
    cases h
    exact length_rest_of_twoStrings h₁

theorem length_rest_of_instruction {cursor next : Cursor} {i : Instruction}
    (h : cursor.instruction = .ok (i, next)) : next.rest.length < cursor.rest.length := by
  obtain ⟨⟨b, c₁⟩, h₁, h⟩ := bind_eq_ok h
  have hbyte := length_rest_of_byte h₁
  simp only at h
  split at h
  · cases h
  · have := length_rest_of_operands h
    omega

end Cursor

/-- An instruction and the offset of its opcode. -/
structure Located where
  offset : Nat
  instruction : Instruction
deriving DecidableEq, Repr

/-- The records of a stream up to its end or to the first fault. -/
structure Decoding where
  records : List Located
  fault : Option StreamFault
deriving DecidableEq, Repr

/-- Decodes the records from a cursor on. -/
def Cursor.records (cursor : Cursor) : Decoding :=
  if cursor.rest.isEmpty then ⟨[], none⟩
  else
    match _read : cursor.instruction with
    | .error fault => ⟨[], some fault⟩
    | .ok (instruction, next) =>
      let later := next.records
      ⟨⟨cursor.offset, instruction⟩ :: later.records, later.fault⟩
termination_by cursor.rest.length
decreasing_by exact Cursor.length_rest_of_instruction _read

/-- Decodes a stream. -/
def Decoding.of (stream : Bytes) : Decoding :=
  Cursor.records ⟨0, stream⟩

/-- The records of a stream without a fault, or the fault. -/
def recordsOf (stream : Bytes) : Except StreamFault (List Located) :=
  let decoding := Decoding.of stream
  match decoding.fault with
  | none => .ok decoding.records
  | some fault => .error fault

end Patchbay
