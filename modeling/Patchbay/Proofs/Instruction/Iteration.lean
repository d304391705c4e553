import Patchbay.Proofs.Instruction.WireFormat

/-!
# Decoding by positions

A cursor takes bytes off the front of a stream, so there is nothing that it could miss.  A decoder
that keeps the whole stream and moves a position over it has to cut its bytes out, and a position
can be wrong.  This file has such a decoder: `Indexed` readers, in which a slice that is not inside
the stream ends everything (`Halt.outOfRange`), and an iterator on top of them (`Walk`), which gives
one record after the other and stops at the first fault.

It does what the decoder with cursors does (`Agrees`): no slice is out of range, no reader moves
backwards, and every fault is where the stream has it (`Explained`).  All of this is kept by doing
one reader after the other (`Agrees.bind`), so that only the readers of bytes and of strings have to
be looked at.  The main statement, `answers_of_stream`, is about every stream.
-/

namespace Patchbay

/-- What stops a reader: a fault of the stream, or a slice that is not inside of it. -/
inductive Halt where
  | fault (fault : StreamFault)
  | outOfRange
deriving DecidableEq, Repr

/-- A reader that moves a position over a stream. -/
abbrev Indexed (α : Type) := StateT Nat (Except Halt) α

namespace Indexed

/-- The bytes from one position up to another. -/
def slice (bytes : Bytes) (start stop : Nat) : Except Halt Bytes :=
  if start ≤ stop ∧ stop ≤ bytes.length then .ok ((bytes.take stop).drop start)
  else .error .outOfRange

/-- The value, or the fault if there is none. -/
def orFault {α : Type} (value? : Option α) (fault : StreamFault) : Indexed α :=
  match value? with
  | some a => pure a
  | none => throw (.fault fault)

variable (stream : Bytes) (record : Nat)

/-- Reads one byte of the record that starts at `record`. -/
def byte : Indexed UInt8 := fun position =>
  match stream[position]? with
  | none => .error (.fault (.cutShort record))
  | some b => .ok (b, position + 1)

/-- Reads `count` bytes of the record that starts at `record`. -/
def take (count : Nat) : Indexed Bytes := fun position =>
  if stream.length < position + count then .error (.fault (.cutShort record))
  else do
    let bytes ← slice stream position (position + count)
    return (bytes, position + count)

/-- Reads a string up to its terminator. -/
def string : Indexed String := fun position => do
  let rest ← slice stream position stream.length
  match rest.findIdx? (· == terminator) with
  | none => .error (.fault (.openString position))
  | some length =>
    let raw ← slice rest 0 length
    if raw.all (· < 128) then return (Tag.asciiText raw, position + length + 1)
    else .error (.fault (.nonAsciiString position))

/-- Reads the code of a type. -/
def tag : Indexed Tag := do
  let offset ← get
  let b ← byte stream record
  orFault (Tag.ofByte? b) (.noSuchTag offset b)

/-- Reads the value of a tag. -/
def value (tag : Tag) : Indexed TaggedValue := do
  let offset ← get
  match tag.width? with
  | some width =>
    let bytes ← take stream record width
    let v ← orFault (tag.decode? bytes) (.noSuchValue offset tag)
    return ⟨tag, v⟩
  | none =>
    let s ← string stream
    return ⟨tag, .string s⟩

/-- Reads an assignment. -/
def assignment : Indexed Assignment := do
  let name ← string stream
  let tag ← tag stream record
  let value ← value stream record tag
  return ⟨name, value⟩

/-- Reads `count` assignments. -/
def assignments : Nat → Indexed (List Assignment)
  | 0 => return []
  | count + 1 => do
    let first ← assignment stream record
    let others ← assignments count
    return first :: others

/-- Reads an element and the values assigned to it. -/
def block : Indexed (String × List Assignment) := do
  let element ← string stream
  let count ← byte stream record
  let values ← assignments stream record count.toNat
  return (element, values)

/-- Reads two strings. -/
def twoStrings : Indexed (String × String) := do
  let first ← string stream
  let second ← string stream
  return (first, second)

/-- Tells clearing all instances from adding one by a look at the next byte. -/
def instance? (id name : String) : Indexed Instruction := do
  let position ← get
  if id.isEmpty && name.isEmpty && stream[position]? == some terminator then
    set (position + 1)
    return .clearInstances
  else return .addInstance id name

/-- Reads the operands of an opcode. -/
def operands (opcode : Opcode) : Indexed Instruction :=
  match opcode with
  | .addInstance => do
    let (id, name) ← twoStrings stream
    instance? stream id name
  | .removeInstance => do
    let name ← string stream
    return .removeInstance name
  | .setValues => do
    let (element, values) ← block stream record
    return .setValues element values
  | .updateValues => do
    let (element, values) ← block stream record
    return .updateValues element values
  | .updateValue => do
    let element ← string stream
    let value ← assignment stream record
    return .updateValue element value
  | .deleteValue => do
    let (element, control) ← twoStrings stream
    return .deleteValue element control
  | .connect => do
    let (sink, source) ← twoStrings stream
    return .connect sink source
  | .disconnect => do
    let (origin, destination) ← twoStrings stream
    return .disconnect origin destination

/-- Reads the record that starts at `record`. -/
def instruction : Indexed Instruction := do
  let b ← byte stream record
  let opcode ← orFault (Opcode.ofByte? b) (.noSuchOpcode record b)
  operands stream record opcode

end Indexed

/-! ## Where faults are -/

/-- The fault of a record that begins at `record`, found where the stream has it. -/
inductive Explained (stream : Bytes) (record : Nat) : StreamFault → Prop
  | noSuchOpcode {b : UInt8} (here : stream[record]? = some b)
      (unknown : ∀ opcode : Opcode, b ≠ opcode.byte) :
      Explained stream record (.noSuchOpcode record b)
  | cutShort : Explained stream record (.cutShort record)
  /-- No NUL follows. -/
  | openString {offset : Nat} (inside : record < offset) (le : offset ≤ stream.length)
      (unterminated : terminator ∉ stream.drop offset) :
      Explained stream record (.openString offset)
  /-- A NUL follows, and a byte above 127 stands before the first one. -/
  | nonAsciiString {offset : Nat} {raw back : Bytes} (inside : record < offset)
      (terminated : stream.drop offset = raw ++ terminator :: back) (first : terminator ∉ raw)
      (high : ∃ b ∈ raw, 127 < b.toNat) : Explained stream record (.nonAsciiString offset)
  | noSuchTag {offset : Nat} {b : UInt8} (inside : record < offset)
      (here : stream[offset]? = some b) (unknown : ∀ tag : Tag, b ≠ tag.codeByte) :
      Explained stream record (.noSuchTag offset b)
  | noSuchValue {offset : Nat} {b : UInt8} (inside : record < offset)
      (here : stream[offset]? = some b) (neither : b ≠ 0 ∧ b ≠ 1) :
      Explained stream record (.noSuchValue offset .bool)

/-- The cursor at a position of a stream. -/
def Cursor.within (stream : Bytes) (position : Nat) : Cursor :=
  ⟨position, stream.drop position⟩

namespace Indexed

variable {stream : Bytes} {record : Nat} {α β : Type}

/-- The results of two readers from the same position: the same fault, which is where the stream has
it, or the same thing with positions that belong together. -/
inductive Alike (stream : Bytes) (record position : Nat) :
    Except Halt (α × Nat) → Except StreamFault (α × Cursor) → Prop
  | fault {fault : StreamFault} (explained : Explained stream record fault) :
      Alike stream record position (.error (.fault fault)) (.error fault)
  | read (a : α) {next : Nat} (forward : position ≤ next) (inside : next ≤ stream.length) :
      Alike stream record position (.ok (a, next)) (.ok (a, Cursor.within stream next))

/-- The two readers have the same results behind the first byte of the record. -/
def Agrees (stream : Bytes) (record : Nat) (indexed : Indexed α)
    (read : Cursor → Except StreamFault (α × Cursor)) : Prop :=
  ∀ position, record < position → position ≤ stream.length →
    Alike stream record position (indexed position) (read (Cursor.within stream position))

theorem Alike.of_le {position later : Nat} (hle : position ≤ later)
    {indexed : Except Halt (α × Nat)} {read : Except StreamFault (α × Cursor)}
    (h : Alike stream record later indexed read) : Alike stream record position indexed read := by
  cases h with
  | fault explained => exact .fault explained
  | read a forward inside => exact .read a (Nat.le_trans hle forward) inside

theorem Agrees.bind {indexed : Indexed α} {read : Cursor → Except StreamFault (α × Cursor)}
    (h : Agrees stream record indexed read) {f : α → Indexed β}
    {next : α × Cursor → Except StreamFault (β × Cursor)}
    (hnext : ∀ a, Agrees stream record (f a) fun cursor => next (a, cursor)) :
    Agrees stream record (indexed >>= f) fun cursor => read cursor >>= next := by
  intro position hrecord hposition
  have hfirst := h position hrecord hposition
  show Alike stream record position (indexed position >>= fun answer => f answer.1 answer.2)
    (read (Cursor.within stream position) >>= next)
  generalize indexed position = x at hfirst ⊢
  generalize read (Cursor.within stream position) = y at hfirst ⊢
  cases hfirst with
  | fault explained => exact .fault explained
  | @read a later forward inside =>
      have hlater := hnext a later (Nat.lt_of_lt_of_le hrecord forward) inside
      exact hlater.of_le forward

theorem agrees_pure (a : α) : Agrees stream record (pure a) fun cursor => .ok (a, cursor) := by
  intro position _ hposition
  exact .read a (Nat.le_refl position) hposition

/-! ## Bytes and strings -/

theorem byte_cases (stream : Bytes) (record position : Nat) :
    (byte stream record position = .error (.fault (.cutShort record)) ∧
        (Cursor.within stream position).byte record = .error (.cutShort record)) ∨
      ∃ b, stream[position]? = some b ∧ position + 1 ≤ stream.length ∧
        byte stream record position = .ok (b, position + 1) ∧
          (Cursor.within stream position).byte record =
            .ok (b, Cursor.within stream (position + 1)) := by
  unfold byte Cursor.byte Cursor.within
  cases hget : stream[position]? with
  | none =>
      left
      rw [List.drop_eq_nil_of_le (List.getElem?_eq_none_iff.1 hget)]
      exact ⟨rfl, rfl⟩
  | some b =>
      obtain ⟨hlt, hb⟩ := List.getElem?_eq_some_iff.1 hget
      right
      refine ⟨b, rfl, hlt, rfl, ?_⟩
      rw [List.drop_eq_getElem_cons hlt, hb]

theorem agrees_byte : Agrees stream record (byte stream record) (Cursor.byte record) := by
  intro position _ _
  rcases byte_cases stream record position with ⟨hbyte, hcursor⟩ | ⟨b, -, hle, hbyte, hcursor⟩
  · rw [hbyte, hcursor]
    exact .fault .cutShort
  · rw [hbyte, hcursor]
    exact .read b (Nat.le_succ position) hle

theorem slice_of_le {bytes : Bytes} {start stop : Nat} (h : start ≤ stop)
    (h' : stop ≤ bytes.length) : slice bytes start stop = .ok ((bytes.take stop).drop start) :=
  if_pos ⟨h, h'⟩

theorem take_cases {position : Nat} (h : position ≤ stream.length) (record count : Nat) :
    (take stream record count position = .error (.fault (.cutShort record)) ∧
        (Cursor.within stream position).take record count = .error (.cutShort record)) ∨
      position + count ≤ stream.length ∧
        take stream record count position =
            .ok ((stream.drop position).take count, position + count) ∧
          (Cursor.within stream position).take record count =
            .ok ((stream.drop position).take count, Cursor.within stream (position + count)) := by
  unfold take Cursor.take Cursor.within
  by_cases hcount : position + count ≤ stream.length
  · right
    have hrest : count ≤ (stream.drop position).length := by
      rw [List.length_drop]
      omega
    refine ⟨hcount, ?_, ?_⟩
    · rw [if_neg (Nat.not_lt.2 hcount), slice_of_le (Nat.le_add_right position count) hcount,
        List.drop_take, Nat.add_sub_cancel_left]
      rfl
    · rw [if_pos hrest, List.drop_drop]
  · left
    have hrest : ¬ count ≤ (stream.drop position).length := by
      rw [List.length_drop]
      omega
    exact ⟨if_pos (Nat.not_le.1 hcount), if_neg hrest⟩

/-- The first NUL is behind the bytes that are not NUL. -/
theorem findIdx?_terminator (rest : Bytes) :
    rest.findIdx? (· == terminator) =
      if rest.dropWhile (· != terminator) = [] then none
      else some (rest.takeWhile (· != terminator)).length := by
  induction rest with
  | nil => rfl
  | cons b rest ih =>
      rw [List.findIdx?_cons]
      by_cases hb : b = terminator
      · subst hb
        simp
      · have hne : (b != terminator) = true := bne_iff_ne.2 hb
        rw [List.dropWhile_cons, List.takeWhile_cons, if_pos hne, if_pos hne, ih,
          if_neg (by simpa using hb)]
        split <;> rfl

/-- The bytes before the first NUL are cut out of the rest of the stream. -/
theorem string_eq {position : Nat} (h : position ≤ stream.length) :
    string stream position =
      match (stream.drop position).dropWhile (· != terminator) with
      | [] => .error (.fault (.openString position))
      | _ :: _ =>
        if ((stream.drop position).takeWhile (· != terminator)).all (· < 128) then
          .ok (Tag.asciiText ((stream.drop position).takeWhile (· != terminator)),
            position + ((stream.drop position).takeWhile (· != terminator)).length + 1)
        else .error (.fault (.nonAsciiString position)) := by
  have hrest : slice stream position stream.length = .ok (stream.drop position) := by
    rw [slice_of_le h (Nat.le_refl _), List.take_length]
  have hraw : slice (stream.drop position) 0
      ((stream.drop position).takeWhile (· != terminator)).length =
        .ok ((stream.drop position).takeWhile (· != terminator)) := by
    have hprefix := List.takeWhile_prefix (l := stream.drop position) (· != terminator)
    rw [slice_of_le (Nat.zero_le _) hprefix.length_le, List.drop_zero,
      ← List.prefix_iff_eq_take.1 hprefix]
  unfold string
  simp only [hrest, bind, Except.bind, findIdx?_terminator]
  cases (stream.drop position).dropWhile (· != terminator) with
  | nil => rfl
  | cons b back =>
      simp only [reduceCtorEq, if_false, hraw]
      rfl

theorem agrees_string : Agrees stream record (string stream) Cursor.string := by
  intro position hrecord hposition
  rw [string_eq hposition]
  unfold Cursor.string Cursor.within
  simp only
  cases hdrop : (stream.drop position).dropWhile (· != terminator) with
  | nil =>
      refine .fault (.openString hrecord hposition ?_)
      intro hmem
      have hne := List.dropWhile_eq_nil_iff.1 hdrop terminator hmem
      exact bne_iff_ne.1 hne rfl
  | cons b back =>
      have hsplit := Cursor.eq_append_of_dropWhile hdrop
      generalize hraw : (stream.drop position).takeWhile (· != terminator) = raw at hsplit ⊢
      simp only
      -- the terminator has been found, so only the bytes before it can be wrong
      by_cases hascii : raw.all (· < 128) = true
      · rw [if_pos hascii, if_pos hascii]
        have hback : back = stream.drop (position + raw.length + 1) := by
          rw [Nat.add_assoc, ← List.drop_drop, hsplit, List.drop_append]
          simp
        have hlength := congrArg List.length hsplit
        rw [List.length_drop, List.length_append, List.length_cons] at hlength
        rw [hback]
        exact .read _ (by omega) (by omega)
      · rw [if_neg hascii, if_neg hascii]
        refine .fault (.nonAsciiString hrecord hsplit ?_ ?_)
        · intro hmem
          rw [← hraw] at hmem
          have hne := List.mem_takeWhile_imp hmem
          exact bne_iff_ne.1 hne rfl
        · rw [List.all_eq_true, not_forall] at hascii
          obtain ⟨b, hb⟩ := hascii
          rw [Classical.not_imp, decide_eq_true_eq, UInt8.lt_iff_toNat_lt] at hb
          exact ⟨b, hb.1, Nat.not_lt.1 hb.2⟩

/-! ## Values and assignments -/

theorem agrees_tag : Agrees stream record (tag stream record) (Cursor.tag record) := by
  intro position hrecord hposition
  have htag : tag stream record position =
      byte stream record position >>= fun answer =>
        orFault (Tag.ofByte? answer.1) (.noSuchTag position answer.1) answer.2 := rfl
  rw [htag]
  unfold Cursor.tag
  rcases byte_cases stream record position with ⟨hbyte, hcursor⟩ | ⟨b, hget, hle, hbyte, hcursor⟩
  · rw [hbyte, hcursor]
    exact .fault .cutShort
  · rw [hbyte, hcursor]
    show Alike _ _ _ (orFault (Tag.ofByte? b) (.noSuchTag position b) (position + 1)) _
    simp only
    cases hknown : Tag.ofByte? b with
    | some t => exact .read t (Nat.le_succ position) hle
    | none =>
        refine .fault (.noSuchTag hrecord hget ?_)
        rintro t rfl
        rw [Tag.ofByte?_codeByte] at hknown
        cases hknown

theorem agrees_value_of_width {t : Tag} {width : Nat} (hwidth : t.width? = some width) :
    Agrees stream record (value stream record t) (Cursor.value record t) := by
  intro position hrecord hposition
  have hvalue : value stream record t position =
      take stream record width position >>= fun answer =>
        (orFault (t.decode? answer.1) (.noSuchValue position t) >>= fun v =>
          (pure ⟨t, v⟩ : Indexed TaggedValue)) answer.2 := by
    unfold value
    simp only [hwidth]
    rfl
  rw [hvalue]
  unfold Cursor.value
  simp only [hwidth]
  rcases take_cases hposition record width with ⟨htake, hcursor⟩ | ⟨hle, htake, hcursor⟩
  · rw [htake, hcursor]
    exact .fault .cutShort
  · rw [htake, hcursor]
    have hlength : ((stream.drop position).take width).length = width := by
      rw [List.length_take, List.length_drop]
      omega
    generalize hbytes : (stream.drop position).take width = bytes at hlength ⊢
    show Alike _ _ _ ((orFault (t.decode? bytes) (.noSuchValue position t) >>= fun v =>
      (pure ⟨t, v⟩ : Indexed TaggedValue)) (position + width)) _
    simp only
    cases hdecode : t.decode? bytes with
    | some v => exact .read _ (Nat.le_add_right position width) hle
    | none =>
        -- of the values with a width, only one of a single byte can be refused
        obtain ⟨rfl, b, rfl, hneither⟩ := Tag.of_decode?_eq_none hwidth hlength hdecode
        cases hwidth
        have hfirst : ((stream.drop position).take 1)[0]? = some b := by
          rw [hbytes]
          rfl
        refine .fault (.noSuchValue hrecord ?_ hneither)
        rw [List.getElem?_take_of_lt Nat.one_pos, List.getElem?_drop] at hfirst
        exact hfirst

theorem agrees_value (t : Tag) :
    Agrees stream record (value stream record t) (Cursor.value record t) := by
  cases hwidth : t.width? with
  | some width => exact agrees_value_of_width hwidth
  | none =>
      have hindexed : value stream record t =
          (string stream >>= fun s => pure ⟨t, .string s⟩) := by
        unfold value
        simp only [hwidth]
        rfl
      have hread : Cursor.value record t = fun cursor => cursor.string >>= fun answer =>
          .ok (⟨t, .string answer.1⟩, answer.2) := by
        funext cursor
        unfold Cursor.value
        simp only [hwidth]
        cases cursor.string <;> rfl
      rw [hindexed, hread]
      exact agrees_string.bind fun s => agrees_pure _

theorem agrees_assignment :
    Agrees stream record (assignment stream record) (Cursor.assignment record) :=
  agrees_string.bind fun _ => agrees_tag.bind fun t => (agrees_value t).bind fun _ => agrees_pure _

theorem agrees_assignments (count : Nat) :
    Agrees stream record (assignments stream record count) (Cursor.assignments record count) := by
  induction count with
  | zero => exact agrees_pure []
  | succ count ih =>
      exact agrees_assignment.bind fun _ => ih.bind fun _ => agrees_pure _

/-! ## Records -/

theorem agrees_block : Agrees stream record (block stream record) (Cursor.block record) :=
  agrees_string.bind fun _ => agrees_byte.bind fun count =>
    (agrees_assignments count.toNat).bind fun _ => agrees_pure _

theorem agrees_twoStrings : Agrees stream record (twoStrings stream) Cursor.twoStrings :=
  agrees_string.bind fun _ => agrees_string.bind fun _ => agrees_pure _

/-- The look at the next byte does not go past the end of the stream. -/
theorem agrees_instance? (id name : String) :
    Agrees stream record (instance? stream id name) fun cursor =>
      .ok (cursor.instance? id name) := by
  intro position _ hposition
  have hindexed : instance? stream id name position =
      if id.isEmpty && name.isEmpty && stream[position]? == some terminator then
        .ok (.clearInstances, position + 1)
      else .ok (.addInstance id name, position) := by
    cases hclear : id.isEmpty && name.isEmpty && stream[position]? == some terminator with
    | true => exact congrFun (if_pos hclear) position
    | false => exact congrFun (if_neg (Bool.eq_false_iff.1 hclear)) position
  rw [hindexed]
  unfold Cursor.instance? Cursor.within
  -- at the end of the stream there is no third terminator, and the look finds nothing
  cases hget : stream[position]? with
  | none =>
      have hrest := List.drop_eq_nil_of_le (List.getElem?_eq_none_iff.1 hget)
      have hclear : ¬ (id.isEmpty && name.isEmpty && none == some terminator) = true := by simp
      simp only [hrest]
      rw [if_neg hclear, ← hrest]
      exact .read _ (Nat.le_refl position) hposition
  | some b =>
      obtain ⟨hlt, hb⟩ := List.getElem?_eq_some_iff.1 hget
      have hrest := List.drop_eq_getElem_cons hlt
      rw [hb] at hrest
      have hsame : (some b == some terminator) = (b == terminator) := rfl
      simp only [hrest]
      by_cases hclear : (id.isEmpty && name.isEmpty && b == terminator) = true
      · rw [if_pos (by rw [hsame, hclear]), if_pos hclear]
        exact .read _ (Nat.le_succ position) hlt
      · rw [if_neg (by rwa [hsame]), if_neg hclear, ← hrest]
        exact .read _ (Nat.le_refl position) hposition

theorem agrees_operands (opcode : Opcode) :
    Agrees stream record (operands stream record opcode)
      (Cursor.operands record opcode) := by
  cases opcode with
  | addInstance => exact agrees_twoStrings.bind fun strings => agrees_instance? strings.1 strings.2
  | removeInstance => exact agrees_string.bind fun _ => agrees_pure _
  | setValues => exact agrees_block.bind fun _ => agrees_pure _
  | updateValues => exact agrees_block.bind fun _ => agrees_pure _
  | updateValue =>
      exact agrees_string.bind fun _ => agrees_assignment.bind fun _ => agrees_pure _
  | deleteValue => exact agrees_twoStrings.bind fun _ => agrees_pure _
  | connect => exact agrees_twoStrings.bind fun _ => agrees_pure _
  | disconnect => exact agrees_twoStrings.bind fun _ => agrees_pure _

/-- A record is read from its first byte on.  All other readers are inside of it. -/
theorem alike_instruction (stream : Bytes) (position : Nat) :
    Alike stream position position (instruction stream position position)
      (Cursor.within stream position).instruction := by
  have hindexed : instruction stream position position =
      byte stream position position >>= fun answer =>
        (orFault (Opcode.ofByte? answer.1) (.noSuchOpcode position answer.1) >>=
          operands stream position) answer.2 := rfl
  have hread : (Cursor.within stream position).instruction =
      (Cursor.within stream position).byte position >>= fun answer =>
        (Opcode.ofByte? answer.1).elim (.error (.noSuchOpcode position answer.1))
          (answer.2.operands position) :=
    Cursor.instruction_eq_bind _
  rw [hindexed, hread]
  rcases byte_cases stream position position with ⟨hbyte, hcursor⟩ | ⟨b, hget, hle, hbyte, hcursor⟩
  · rw [hbyte, hcursor]
    exact .fault .cutShort
  · rw [hbyte, hcursor]
    show Alike _ _ _ ((orFault (Opcode.ofByte? b) (.noSuchOpcode position b) >>=
        operands stream position) (position + 1))
      ((Opcode.ofByte? b).elim (.error (.noSuchOpcode position b))
        ((Cursor.within stream (position + 1)).operands position))
    cases hknown : Opcode.ofByte? b with
    | none =>
        refine .fault (.noSuchOpcode hget ?_)
        rintro opcode rfl
        rw [Opcode.ofByte?_byte] at hknown
        cases hknown
    | some opcode =>
        -- the operands begin behind the opcode, so they are read from inside of the record
        have hoperands := agrees_operands opcode (position + 1) (Nat.lt_succ_self position) hle
        exact hoperands.of_le (Nat.le_succ position)

end Indexed

/-! ## One record after the other -/

/-- A decoder between two records: the position that it has reached, and whether it has failed. -/
structure Walk where
  stream : Bytes
  position : Nat
  failed : Bool

namespace Walk

/-- A decoder at the beginning of a stream. -/
def new (stream : Bytes) : Walk :=
  ⟨stream, 0, false⟩

/-- The next record, or what has stopped the decoder.  Behind the end of the stream and behind a
failure there is nothing. -/
def next (walk : Walk) : Option (Except Halt Located) × Walk :=
  if walk.failed || walk.stream.length ≤ walk.position then (none, walk)
  else
    match Indexed.instruction walk.stream walk.position walk.position with
    | .ok (instruction, position) =>
      (some (.ok ⟨walk.position, instruction⟩), { walk with position })
    | .error halt => (some (.error halt), { walk with failed := true })

/-- The answer to the question for the next record, after it has been asked `n` times. -/
def answer (walk : Walk) : Nat → Option (Except Halt Located)
  | 0 => walk.next.1
  | n + 1 => walk.next.2.answer n

/-- Records that are read one after the other, from one position of a stream up to another. -/
inductive Passes (stream : Bytes) : Nat → List Located → Nat → Prop
  | nil (position : Nat) : Passes stream position [] position
  | cons {position next stop : Nat} {i : Instruction} {records : List Located}
      (cursor : (Cursor.within stream position).instruction =
        .ok (i, Cursor.within stream next))
      (indexed : Indexed.instruction stream position position = .ok (i, next))
      (rest : Passes stream next records stop) :
      Passes stream position (⟨position, i⟩ :: records) stop

/-- How the records of a stream end, from a position on that has been reached. -/
inductive Ends (stream : Bytes) (stop : Nat) : Option StreamFault → Prop
  | whole (all : stop = stream.length) : Ends stream stop none
  | fault {fault : StreamFault} (inside : stop < stream.length)
      (cursor : (Cursor.within stream stop).instruction = .error fault)
      (indexed : Indexed.instruction stream stop stop = .error (.fault fault))
      (explained : Explained stream stop fault) : Ends stream stop (some fault)

section

variable {stream : Bytes} {position next : Nat} {i : Instruction}

theorem exists_of_instruction {cursor : Cursor}
    (h : (Cursor.within stream position).instruction = .ok (i, cursor)) :
    ∃ next, cursor = Cursor.within stream next ∧ next ≤ stream.length ∧
      Indexed.instruction stream position position = .ok (i, next) := by
  have halike := Indexed.alike_instruction stream position
  rw [h] at halike
  generalize Indexed.instruction stream position position = x at halike ⊢
  cases halike with
  | @read _ next forward inside => exact ⟨next, rfl, inside, rfl⟩

theorem explained_of_instruction {fault : StreamFault}
    (h : (Cursor.within stream position).instruction = .error fault) :
    Indexed.instruction stream position position = .error (.fault fault) ∧
      Explained stream position fault := by
  have halike := Indexed.alike_instruction stream position
  rw [h] at halike
  generalize Indexed.instruction stream position position = x at halike ⊢
  cases halike with
  | fault explained => exact ⟨rfl, explained⟩

/-- No record begins where the decoder fails. -/
theorem not_prefix_of_error {cursor : Cursor} {fault : StreamFault}
    (h : cursor.instruction = .error fault) (hwell : i.WellFormed) :
    ¬ i.wire <+: cursor.rest := by
  rintro ⟨rest, hrest⟩
  by_cases hends : Cursor.Ends i ⟨cursor.offset + i.wire.length, rest⟩
  · have hread := Cursor.instruction_eq_ok_iff.2 ⟨hwell, ⟨hrest.symm, rfl⟩, hends⟩
    rw [h] at hread
    cases hread
  · -- with one more NUL the two empty strings begin the longer record
    obtain ⟨rfl, hhead⟩ := Classical.not_imp.1 hends
    obtain ⟨back, rfl⟩ := List.head?_eq_some_iff.1 (Classical.not_not.1 hhead)
    have hclear : cursor.Passes Instruction.clearInstances.wire
        ⟨cursor.offset + Instruction.clearInstances.wire.length, back⟩ := ⟨hrest.symm, rfl⟩
    have hwell : Instruction.clearInstances.WellFormed := trivial
    have hread := Cursor.instruction_eq_ok_iff.2 ⟨hwell, hclear, Cursor.ends_of_ne (by simp) _⟩
    rw [h] at hread
    cases hread

/-- A record is not empty, so the next one begins further down. -/
theorem eq_of_instruction
    (h : (Cursor.within stream position).instruction = .ok (i, Cursor.within stream next)) :
    next = position + i.wire.length ∧ stream.drop position = i.wire ++ stream.drop next := by
  obtain ⟨-, hpasses, -⟩ := Cursor.instruction_eq_ok_iff.1 h
  exact ⟨hpasses.offset, hpasses.rest⟩

end

/-- Every stream can be read up to its end or up to a fault. -/
theorem exists_passes {stream : Bytes} {position : Nat} (h : position ≤ stream.length) :
    ∃ stop, stop ≤ stream.length ∧
      Passes stream position (Cursor.within stream position).records.records stop ∧
        Ends stream stop (Cursor.within stream position).records.fault := by
  -- what is left of the stream gets shorter with every record
  induction hleft : stream.length - position using Nat.strong_induction_on
    generalizing position with
  | h left ih =>
      by_cases hend : position = stream.length
      · have hrest : (Cursor.within stream position).rest = [] :=
          List.drop_eq_nil_of_le (Nat.le_of_eq hend.symm)
        rw [Cursor.records_of_isEmpty hrest]
        exact ⟨position, h, .nil position, .whole hend⟩
      · have hlt : position < stream.length := Nat.lt_of_le_of_ne h hend
        have hrest : (Cursor.within stream position).rest ≠ [] := by
          rw [Cursor.within, ne_eq, List.drop_eq_nil_iff]
          exact Nat.not_le.2 hlt
        cases hread : (Cursor.within stream position).instruction with
        | error fault =>
            obtain ⟨hindexed, hexplained⟩ := explained_of_instruction hread
            rw [Cursor.records_of_error hrest hread]
            exact ⟨position, h, .nil position, .fault hlt hread hindexed hexplained⟩
        | ok answer =>
            obtain ⟨i, cursor⟩ := answer
            obtain ⟨next, rfl, hinside, hindexed⟩ := exists_of_instruction hread
            obtain ⟨hnext, -⟩ := eq_of_instruction hread
            have hpos : 0 < i.wire.length := Nat.succ_pos _
            obtain ⟨stop, hstop, hpasses, hends⟩ :=
              ih (stream.length - next) (by omega) hinside rfl
            rw [Cursor.records_of_ok hread]
            exact ⟨stop, hstop, .cons hread hindexed hpasses, hends⟩

namespace Passes

variable {stream : Bytes} {position stop : Nat} {records : List Located}

theorem drop_eq (h : Passes stream position records stop) :
    stream.drop position =
      records.flatMap (fun r => r.instruction.wire) ++ stream.drop stop := by
  induction h with
  | nil position => rfl
  | cons cursor indexed rest ih =>
      rw [(eq_of_instruction cursor).2, ih, List.flatMap_cons, List.append_assoc]

theorem pairwise (h : Passes stream position records stop) :
    (∀ r ∈ records, position ≤ r.offset) ∧ (records.map Located.offset).Pairwise (· < ·) := by
  induction h with
  | nil position => simp
  | @cons position next stop i records cursor indexed rest ih =>
      obtain ⟨hnext, -⟩ := eq_of_instruction cursor
      have hlt : position < next := by
        rw [hnext]
        exact Nat.lt_add_of_pos_right (Nat.succ_pos _)
      refine ⟨List.forall_mem_cons.2 ⟨Nat.le_refl position, ?_⟩, ?_⟩
      · intro r hr
        exact Nat.le_trans (Nat.le_of_lt hlt) (ih.1 r hr)
      · rw [List.map_cons, List.pairwise_cons]
        refine ⟨?_, ih.2⟩
        intro offset hoffset
        obtain ⟨r, hr, rfl⟩ := List.mem_map.1 hoffset
        exact Nat.lt_of_lt_of_le hlt (ih.1 r hr)

/-- The decoder gives the records, and then what it gives behind them. -/
theorem answer_eq (h : Passes stream position records stop) {tail : List (Except Halt Located)}
    (htail : ∀ n, answer ⟨stream, stop, false⟩ n = tail[n]?) (n : Nat) :
    answer ⟨stream, position, false⟩ n = (records.map .ok ++ tail)[n]? := by
  induction h generalizing n with
  | nil position => exact htail n
  | @cons position next stop i records cursor indexed rest ih =>
      have hlt : position < stream.length := by
        by_contra hle
        have hdrop := (eq_of_instruction cursor).2
        rw [List.drop_eq_nil_of_le (Nat.not_lt.1 hle)] at hdrop
        cases hdrop
      have hnext : Walk.next ⟨stream, position, false⟩ =
          (some (.ok ⟨position, i⟩), ⟨stream, next, false⟩) := by
        unfold Walk.next
        simp only [indexed, Bool.false_or, decide_eq_true_eq, if_neg (Nat.not_le.2 hlt)]
      cases n with
      | zero =>
          rw [answer, hnext]
          rfl
      | succ n =>
          rw [answer, hnext]
          exact ih htail n

end Passes

/-- A decoder that has nothing left gives nothing, however often it is asked. -/
theorem answer_of_next {walk : Walk} (h : walk.next = (none, walk)) (n : Nat) :
    walk.answer n = none := by
  induction n with
  | zero => rw [answer, h]
  | succ n ih => rw [answer, h, ih]

theorem answer_of_ends {stream : Bytes} {stop : Nat} {fault? : Option StreamFault}
    (h : Ends stream stop fault?) (n : Nat) :
    answer ⟨stream, stop, false⟩ n =
      (fault?.toList.map fun fault => Except.error (Halt.fault fault))[n]? := by
  cases h with
  | whole all =>
      refine answer_of_next ?_ n
      unfold next
      simp [all]
  | @fault fault inside cursor indexed explained =>
      have hnext : next ⟨stream, stop, false⟩ =
          (some (.error (.fault fault)), ⟨stream, stop, true⟩) := by
        unfold next
        simp only [indexed, Bool.false_or, decide_eq_true_eq, if_neg (Nat.not_le.2 inside)]
      cases n with
      | zero =>
          rw [answer, hnext]
          rfl
      | succ n =>
          rw [answer, hnext]
          exact answer_of_next rfl n

/-- Whatever the bytes of a stream are, a decoder that moves a position over them never leaves them.
It gives the records of the stream up to some position, and then it gives nothing more because this
is the end, or exactly one fault of what begins there, which is not a record. -/
theorem answers_of_stream (stream : Bytes) :
    ∃ stop records fault?, stop ≤ stream.length ∧ Decoding.of stream = ⟨records, fault?⟩ ∧
      (∀ n, (Walk.new stream).answer n =
        (records.map Except.ok ++ fault?.toList.map fun fault => .error (.fault fault))[n]?) ∧
      (records.map Located.offset).Pairwise (· < ·) ∧
      records.flatMap (fun r => r.instruction.wire) = stream.take stop ∧
      (fault? = none ∧ stop = stream.length ∨
        ∃ fault, fault? = some fault ∧ stop < stream.length ∧
          (∀ i : Instruction, i.WellFormed → ¬ i.wire <+: stream.drop stop) ∧
            Explained stream stop fault) := by
  obtain ⟨stop, hstop, hpasses, hends⟩ := exists_passes (Nat.zero_le stream.length)
  have hof : (Cursor.within stream 0).records = Decoding.of stream := rfl
  rw [hof] at hpasses hends
  generalize Decoding.of stream = decoding at hpasses hends ⊢
  obtain ⟨records, fault?⟩ := decoding
  refine ⟨stop, records, fault?, hstop, rfl, ?_, hpasses.pairwise.2, ?_, ?_⟩
  · intro n
    exact hpasses.answer_eq (answer_of_ends hends) n
  · have hsplit := hpasses.drop_eq
    rw [List.drop_zero, eq_comm] at hsplit
    exact List.append_cancel_right (hsplit.trans (List.take_append_drop stop stream).symm)
  · cases hends with
    | whole all => exact .inl ⟨rfl, all⟩
    | fault inside cursor indexed explained =>
        exact .inr ⟨_, rfl, inside, fun i hi => not_prefix_of_error cursor hi, explained⟩

end Walk

end Patchbay
