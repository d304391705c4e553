import Mathlib.Data.List.Basic
import Patchbay.Proofs.Instruction.WireFormat

/-!
# Streams that are cut off

A stream has no lengths, so a decoder that is given only the beginning of one has to find out by
itself that bytes are missing.  It does, with a single exception: the record that clears all
instances, without its last NUL, is the record of an added instance without identifier and name
(`recordsOf_take`).

The argument is about the fields of a record, which are strings and bytes of a known number.  A
reader that gets only a part of its fields runs out of bytes inside one of them (`Torn`).  This is so
for a reader that is put together from others, because the fields before the cut are still read as
they are in the whole record (`Torn.bind`).
-/

namespace Patchbay

/-! ## Fields -/

/-- A part of a record: a string with its terminator, or bytes whose number is known when they are
read. -/
inductive Field where
  | text (s : String)
  | raw (bytes : Bytes)

/-- The bytes of a field. -/
def Field.wire : Field → Bytes
  | text s => wireString s
  | raw bytes => bytes

/-- The bytes of fields. -/
def wireOf (fields : List Field) : Bytes :=
  fields.flatMap Field.wire

/-- A string begins `distance` bytes behind the beginning of the fields. -/
def TextAt (fields : List Field) (distance : Nat) : Prop :=
  ∃ front s back, fields = front ++ .text s :: back ∧ distance = (wireOf front).length

/-- The value of an assignment as a field. -/
def TaggedValue.wireField (v : TaggedValue) : Field :=
  match v.value with
  | .string s => .text s
  | _ => .raw v.bytes

/-- The fields of an assignment. -/
def Assignment.wireFields (a : Assignment) : List Field :=
  [.text a.name, .raw [a.value.tag.codeByte], a.value.wireField]

/-- The fields of the operands of an instruction. -/
def Instruction.operandFields : Instruction → List Field
  | clearInstances => [.text "", .text "", .raw [terminator]]
  | addInstance id name => [.text id, .text name]
  | removeInstance name => [.text name]
  | setValues element values =>
      [.text element, .raw [UInt8.ofNat values.length]] ++ values.flatMap Assignment.wireFields
  | updateValues element values =>
      [.text element, .raw [UInt8.ofNat values.length]] ++ values.flatMap Assignment.wireFields
  | updateValue element value => [.text element] ++ value.wireFields
  | deleteValue element control => [.text element, .text control]
  | connect sink source => [.text sink, .text source]
  | disconnect origin destination => [.text origin, .text destination]

/-- The fields of a record. -/
def Instruction.wireFields (i : Instruction) : List Field :=
  .raw [i.opcode.byte] :: i.operandFields

theorem wireOf_append (front back : List Field) :
    wireOf (front ++ back) = wireOf front ++ wireOf back :=
  List.flatMap_append

theorem wireOf_cons (field : Field) (rest : List Field) :
    wireOf (field :: rest) = field.wire ++ wireOf rest := rfl

theorem TextAt.append_left {front : List Field} {distance : Nat} (h : TextAt front distance)
    (back : List Field) : TextAt (front ++ back) distance := by
  obtain ⟨before, s, behind, rfl, rfl⟩ := h
  exact ⟨before, s, behind ++ back, by simp, rfl⟩

theorem TextAt.append_right {back : List Field} {distance : Nat} (h : TextAt back distance)
    (front : List Field) : TextAt (front ++ back) ((wireOf front).length + distance) := by
  obtain ⟨before, s, behind, rfl, rfl⟩ := h
  refine ⟨front ++ before, s, behind, by simp, ?_⟩
  rw [wireOf_append, List.length_append]

theorem TaggedValue.wireField_of_width {tag : Tag} {value : Value} (h : tag.Holds value)
    {width : Nat} (hwidth : tag.width? = some width) :
    TaggedValue.wireField ⟨tag, value⟩ = .raw (value.bytes width) := by
  have hbytes : TaggedValue.bytes ⟨tag, value⟩ = value.bytes width := by
    rw [TaggedValue.bytes, hwidth]
    rfl
  rw [← hbytes]
  cases h with
  | @integer type n hleast hgreatest =>
      unfold IntegerType.toValue
      cases type.signed <;> rfl
  | bool b => rfl
  | double v => rfl
  | fixPoint p => rfl
  | string travels => cases hwidth

theorem TaggedValue.wire_wireField {tag : Tag} {value : Value} (h : tag.Holds value) :
    (TaggedValue.wireField ⟨tag, value⟩).wire = TaggedValue.payload ⟨tag, value⟩ := by
  cases hwidth : tag.width? with
  | some width =>
      rw [wireField_of_width h hwidth, TaggedValue.payload_of_width hwidth]
      rfl
  | none =>
      cases h with
      | string travels => rfl
      | _ => cases hwidth

theorem Assignment.wireOf_wireFields {a : Assignment} (h : a.WellFormed) :
    wireOf a.wireFields = a.wire := by
  rw [Assignment.wire, TaggedValue.wire_eq, ← TaggedValue.wire_wireField h.value]
  simp [wireOf, wireFields, Field.wire]

theorem Assignment.wireOf_flatMap_wireFields {values : List Assignment}
    (h : ∀ a ∈ values, a.WellFormed) :
    wireOf (values.flatMap wireFields) = values.flatMap wire := by
  rw [wireOf, List.flatMap_assoc]
  exact List.flatMap_congr fun a ha => wireOf_wireFields (h a ha)

theorem Instruction.wireOf_operandFields {i : Instruction} (h : i.WellFormed) :
    wireOf i.operandFields = i.operands := by
  cases i with
  | clearInstances => rfl
  | setValues element values =>
      rw [operandFields, wireOf_append, Assignment.wireOf_flatMap_wireFields h.2.all]
      simp [wireOf, Field.wire, operands, Assignment.wireList]
  | updateValues element values =>
      rw [operandFields, wireOf_append, Assignment.wireOf_flatMap_wireFields h.2.all]
      simp [wireOf, Field.wire, operands, Assignment.wireList]
  | updateValue element value =>
      rw [operandFields, wireOf_append, Assignment.wireOf_wireFields h.2]
      simp [wireOf, Field.wire, operands]
  | _ => simp [wireOf, operandFields, Field.wire, operands]

/-- The fields of a record are its bytes. -/
theorem Instruction.wireOf_wireFields {i : Instruction} (h : i.WellFormed) :
    wireOf i.wireFields = i.wire := by
  rw [wireFields, wireOf_cons, wireOf_operandFields h]
  rfl

/-! ## Readers that run out of bytes -/

/-- The fault of a reader that has run out of bytes among the given fields, which begin at `offset`
in the record at `record`. -/
inductive RunsOut (record offset : Nat) (fields : List Field) : StreamFault → Prop
  | cutShort : RunsOut record offset fields (.cutShort record)
  | openString {distance : Nat} (text : TextAt fields distance) :
      RunsOut record offset fields (.openString (offset + distance))

theorem RunsOut.append_left {record offset : Nat} {front : List Field} {fault : StreamFault}
    (h : RunsOut record offset front fault) (back : List Field) :
    RunsOut record offset (front ++ back) fault := by
  cases h with
  | cutShort => exact .cutShort
  | openString text => exact .openString (text.append_left back)

theorem RunsOut.append_right {record offset : Nat} {front back : List Field} {fault : StreamFault}
    (h : RunsOut record (offset + (wireOf front).length) back fault) :
    RunsOut record offset (front ++ back) fault := by
  cases h with
  | cutShort => exact .cutShort
  | openString text =>
      rw [Nat.add_assoc]
      exact .openString (text.append_right front)

namespace Cursor

section

variable {α β : Type} {record : Nat}

/-- The reader runs out of bytes wherever the fields are cut off. -/
def Torn (record : Nat) (read : Cursor → Except StreamFault (α × Cursor)) (fields : List Field) :
    Prop :=
  ∀ offset count, count < (wireOf fields).length →
    ∃ fault, read ⟨offset, (wireOf fields).take count⟩ = .error fault ∧
      RunsOut record offset fields fault

/-- The reader reads `x` from the fields, whatever stands behind them. -/
def Whole (read : Cursor → Except StreamFault (α × Cursor)) (fields : List Field) (x : α) : Prop :=
  ∀ cursor next : Cursor, cursor.Passes (wireOf fields) next → read cursor = .ok (x, next)

theorem Torn.map {read : Cursor → Except StreamFault (α × Cursor)} {fields : List Field}
    (h : Torn record read fields) (next : α × Cursor → Except StreamFault (β × Cursor)) :
    Torn record (fun cursor => read cursor >>= next) fields := by
  intro offset count hcount
  obtain ⟨fault, hread, hfault⟩ := h offset count hcount
  refine ⟨fault, ?_, hfault⟩
  simp only [hread]
  rfl

/-- A cut among the fields of the first reader stops this reader.  With a cut further down it reads
what it reads in the whole record, and the second reader is stopped. -/
theorem Torn.bind {read : Cursor → Except StreamFault (α × Cursor)} {front back : List Field}
    {x : α} {next : α × Cursor → Except StreamFault (β × Cursor)} (h : Torn record read front)
    (hwhole : Whole read front x) (hnext : Torn record (fun cursor => next (x, cursor)) back) :
    Torn record (fun cursor => read cursor >>= next) (front ++ back) := by
  intro offset count hcount
  rw [wireOf_append, List.length_append] at hcount
  rw [wireOf_append]
  by_cases hfront : count < (wireOf front).length
  · obtain ⟨fault, hread, hfault⟩ := h.map next offset count hfront
    refine ⟨fault, ?_, hfault.append_left back⟩
    rw [List.take_append_of_le_length (Nat.le_of_lt hfront), hread]
  · obtain ⟨more, rfl⟩ := Nat.exists_eq_add_of_le (Nat.le_of_not_lt hfront)
    obtain ⟨fault, hread, hfault⟩ :=
      hnext (offset + (wireOf front).length) more (Nat.lt_of_add_lt_add_left hcount)
    refine ⟨fault, ?_, hfault.append_right⟩
    have hfirst : read ⟨offset, wireOf front ++ (wireOf back).take more⟩ =
        .ok (x, ⟨offset + (wireOf front).length, (wireOf back).take more⟩) :=
      hwhole _ _ ⟨rfl, rfl⟩
    simp only [List.take_length_add_append, hfirst]
    exact hread

/-! ## Strings and values -/

theorem torn_byte (b : UInt8) : Torn record (byte record) [.raw [b]] := by
  intro offset count hcount
  obtain rfl : count = 0 := Nat.lt_one_iff.1 hcount
  exact ⟨_, rfl, .cutShort⟩

theorem torn_take {bytes : Bytes} {count : Nat} (h : bytes.length = count) :
    Torn record (take record count) [.raw bytes] := by
  intro offset few hfew
  have hwire : wireOf [.raw bytes] = bytes := List.append_nil bytes
  rw [hwire] at hfew ⊢
  refine ⟨_, ?_, .cutShort⟩
  unfold take
  rw [if_neg]
  rw [List.length_take]
  omega

theorem torn_string {s : String} (h : canTravel s.toList = true) :
    Torn record string [.text s] := by
  obtain ⟨hbytes, -⟩ := asciiText_eq_iff.2 ⟨h, rfl⟩
  intro offset count hcount
  have hwire : wireOf [.text s] = Utf8.encode s.toList ++ [terminator] := List.append_nil _
  rw [hwire, List.length_append, List.length_singleton] at hcount
  rw [hwire, List.take_append_of_le_length (Nat.le_of_lt_succ hcount)]
  refine ⟨.openString offset, ?_, .openString ⟨[], s, [], rfl, rfl⟩⟩
  have hnone : ((Utf8.encode s.toList).take count).dropWhile (· != terminator) = [] := by
    rw [List.dropWhile_eq_nil_iff]
    intro b hb
    exact ne_terminator_iff.2 (hbytes b (List.mem_of_mem_take hb)).2
  unfold string
  simp only [hnone]

theorem torn_tag (t : Tag) : Torn record (tag record) [.raw [t.codeByte]] := by
  intro offset count hcount
  obtain rfl : count = 0 := Nat.lt_one_iff.1 hcount
  exact ⟨_, rfl, .cutShort⟩

theorem torn_value {t : Tag} {v : Value} (h : t.Holds v) :
    Torn record (value record t) [TaggedValue.wireField ⟨t, v⟩] := by
  cases hwidth : t.width? with
  | some width =>
      rw [TaggedValue.wireField_of_width h hwidth]
      intro offset count hcount
      obtain ⟨fault, hread, hfault⟩ := torn_take (h.length_bytes hwidth) offset count hcount
      refine ⟨fault, ?_, hfault⟩
      unfold value
      simp only [hwidth, hread]
  | none =>
      cases h with
      | @string s travels =>
          have hfield : TaggedValue.wireField ⟨.string, .string s⟩ = .text s := rfl
          rw [hfield]
          intro offset count hcount
          obtain ⟨fault, hread, hfault⟩ := torn_string travels offset count hcount
          refine ⟨fault, ?_, hfault⟩
          unfold value
          simp only [hwidth, hread]
      | _ => cases hwidth

theorem whole_string {s : String} (h : canTravel s.toList = true) :
    Whole string [.text s] s := by
  intro cursor next hpasses
  have hwire : wireOf [.text s] = wireString s := List.append_nil _
  rw [hwire] at hpasses
  exact string_eq_ok_iff.2 ⟨h, hpasses⟩

theorem whole_tag (t : Tag) : Whole (tag record) [.raw [t.codeByte]] t := by
  intro cursor next hpasses
  exact tag_eq_ok_iff.2 hpasses

theorem whole_byte (b : UInt8) : Whole (byte record) [.raw [b]] b := by
  intro cursor next hpasses
  exact byte_eq_ok_iff.2 hpasses

theorem whole_assignment {a : Assignment} (h : a.WellFormed) :
    Whole (assignment record) a.wireFields a := by
  intro cursor next hpasses
  rw [Assignment.wireOf_wireFields h] at hpasses
  exact assignment_eq_ok_iff.2 ⟨h, hpasses⟩

theorem torn_assignment {a : Assignment} (h : a.WellFormed) :
    Torn record (assignment record) a.wireFields :=
  (torn_string h.name).bind (whole_string h.name)
    ((torn_tag a.value.tag).bind (whole_tag a.value.tag) ((torn_value h.value).map _))

theorem torn_assignments {values : List Assignment} (h : ∀ a ∈ values, a.WellFormed) :
    Torn record (assignments record values.length) (values.flatMap Assignment.wireFields) := by
  induction values with
  | nil =>
      intro offset count hcount
      exact absurd hcount (Nat.not_lt_zero count)
  | cons a values ih =>
      obtain ⟨hfirst, hothers⟩ := List.forall_mem_cons.1 h
      exact (torn_assignment hfirst).bind (whole_assignment hfirst) ((ih hothers).map _)

/-! ## Records -/

theorem torn_twoStrings {first second : String} (hfirst : canTravel first.toList = true)
    (hsecond : canTravel second.toList = true) :
    Torn record twoStrings [.text first, .text second] :=
  (torn_string hfirst).bind (whole_string hfirst) ((torn_string hsecond).map _)

theorem torn_block {element : String} {values : List Assignment}
    (helement : canTravel element.toList = true) (h : Assignment.WellFormedList values) :
    Torn record (block record) ([.text element, .raw [UInt8.ofNat values.length]] ++
      values.flatMap Assignment.wireFields) := by
  have hcount : (UInt8.ofNat values.length).toNat = values.length := by
    have := h.limit
    rw [UInt8.toNat_ofNat', Nat.mod_eq_of_lt]
    omega
  refine (torn_string helement).bind (whole_string helement) ?_
  refine (torn_byte (UInt8.ofNat values.length)).bind (whole_byte _) ?_
  simp only [hcount]
  exact (torn_assignments h.all).map _

theorem torn_operands {i : Instruction} (h : i.WellFormed) (hclear : i ≠ .clearInstances) :
    Torn record (operands record i.opcode) i.operandFields := by
  cases i with
  | clearInstances => exact absurd rfl hclear
  | addInstance id name => exact (torn_twoStrings h.1 h.2).map _
  | removeInstance name => exact (torn_string h).map _
  | setValues element values => exact (torn_block h.1 h.2).map _
  | updateValues element values => exact (torn_block h.1 h.2).map _
  | updateValue element value =>
      exact (torn_string h.1).bind (whole_string h.1) ((torn_assignment h.2).map _)
  | deleteValue element control => exact (torn_twoStrings h.1 h.2).map _
  | connect sink source => exact (torn_twoStrings h.1 h.2).map _
  | disconnect origin destination => exact (torn_twoStrings h.1 h.2).map _

end

/-- The opcode is the first byte of its record, which is the one that the fault names. -/
theorem instruction_of_torn_operands {i : Instruction} {operandFields : List Field} {offset : Nat}
    (h : Torn offset (operands offset i.opcode) operandFields) {count : Nat}
    (hcount : count < 1 + (wireOf operandFields).length) :
    ∃ fault, instruction ⟨offset, (i.opcode.byte :: wireOf operandFields).take count⟩ =
        .error fault ∧
      RunsOut offset offset (.raw [i.opcode.byte] :: operandFields) fault := by
  have htorn : Torn offset (fun cursor => cursor.byte offset >>= fun answer =>
      (Opcode.ofByte? answer.1).elim (.error (.noSuchOpcode offset answer.1))
        (answer.2.operands offset)) ([.raw [i.opcode.byte]] ++ operandFields) := by
    refine (torn_byte i.opcode.byte).bind (whole_byte _) ?_
    simp only [Opcode.ofByte?_byte]
    exact h
  rw [instruction_eq_bind]
  refine htorn offset count ?_
  rw [wireOf_append, List.length_append]
  exact hcount

/-- A record that is cut off cannot be read, unless it is the one that has another record as its
beginning. -/
theorem instruction_take {i : Instruction} (h : i.WellFormed) (offset : Nat) {count : Nat}
    (hcount : count < i.wire.length) (hclear : ¬ (i = .clearInstances ∧ count = 3)) :
    ∃ fault, instruction ⟨offset, i.wire.take count⟩ = .error fault ∧
      RunsOut offset offset i.wireFields fault := by
  by_cases hi : i = .clearInstances
  · subst hi
    -- the last NUL is missing anyway, so the record is cut off like the shorter one
    have hfew : count < (Instruction.addInstance "" "").wire.length := by
      have hfour : count < 4 := hcount
      have hthree : count ≠ 3 := fun hcount => hclear ⟨rfl, hcount⟩
      have hlength : (Instruction.addInstance "" "").wire.length = 3 := rfl
      omega
    have hwire : Instruction.clearInstances.wire =
        (Instruction.addInstance "" "").wire ++ [terminator] := rfl
    have htorn : Torn offset (operands offset (Instruction.addInstance "" "").opcode)
        (Instruction.addInstance "" "").operandFields := torn_operands ⟨rfl, rfl⟩ (by simp)
    obtain ⟨fault, hread, hfault⟩ := instruction_of_torn_operands htorn hfew
    refine ⟨fault, ?_, hfault.append_left [.raw [terminator]]⟩
    rw [hwire, List.take_append_of_le_length (Nat.le_of_lt hfew)]
    exact hread
  · have hwire : i.wire = i.opcode.byte :: wireOf i.operandFields := by
      rw [Instruction.wireOf_operandFields h]
      rfl
    rw [hwire] at hcount ⊢
    refine instruction_of_torn_operands (torn_operands h hi) ?_
    rw [Nat.add_comm]
    exact hcount

theorem instruction_clearInstances_take (offset : Nat) :
    instruction ⟨offset, Instruction.clearInstances.wire.take 3⟩ =
      .ok (.addInstance "" "", ⟨offset + 3, []⟩) :=
  instruction_eq_ok_iff.2 ⟨⟨rfl, rfl⟩, ⟨rfl, rfl⟩, by simp [Ends]⟩

end Cursor

/-! ## Streams -/

/-- The offset behind a record. -/
def Located.stop (r : Located) : Nat :=
  r.offset + r.instruction.wire.length

theorem Located.offset_lt_stop (r : Located) : r.offset < r.stop :=
  Nat.lt_add_of_pos_right (Nat.succ_pos _)

namespace Laid

variable {offset : Nat} {records : List Located} {bytes : Bytes}

/-- Records are somewhere in their stream. -/
theorem bounds (h : Laid offset records bytes) :
    ∀ r ∈ records, offset ≤ r.offset ∧ r.stop ≤ offset + bytes.length := by
  induction h with
  | nil offset => simp
  | @cons offset i records bytes hwell hrest ih =>
      rw [List.length_append]
      refine List.forall_mem_cons.2 ⟨⟨Nat.le_refl _, ?_⟩, ?_⟩
      · rw [Located.stop, ← Nat.add_assoc]
        exact Nat.le_add_right _ _
      · intro r hr
        obtain ⟨hoffset, hstop⟩ := ih r hr
        omega

/-- The end of a stream is the end of its last record, if it has records. -/
theorem exists_stop (h : Laid offset records bytes) :
    bytes.length = 0 ∨ ∃ r ∈ records, r.stop = offset + bytes.length := by
  induction h with
  | nil offset => exact .inl rfl
  | @cons offset i records bytes hwell hrest ih =>
      right
      rw [List.length_append, ← Nat.add_assoc]
      rcases ih with hempty | ⟨r, hr, hstop⟩
      · refine ⟨_, List.mem_cons_self, ?_⟩
        rw [hempty]
        rfl
      · exact ⟨r, List.mem_cons_of_mem _ hr, hstop⟩

/-- A stream that is cut off behind `k` bytes.  The records in front are those that are not cut. -/
structure Cut (offset k : Nat) (records : List Located) (bytes : Bytes)
    (front back : List Located) (done todo : Bytes) : Prop where
  records_eq : records = front ++ back
  bytes_eq : bytes = done ++ todo
  laid_front : Laid offset front done
  laid_back : Laid (offset + done.length) back todo
  done_le : done.length ≤ k
  lt_stop : ∀ r ∈ back, offset + k < r.stop

theorem exists_cut (h : Laid offset records bytes) {k : Nat} (hk : k ≤ bytes.length) :
    ∃ front back done todo, Cut offset k records bytes front back done todo := by
  induction h generalizing k with
  | nil offset =>
      exact ⟨[], [], [], [], rfl, rfl, .nil _, .nil _, Nat.zero_le k, by simp⟩
  | @cons offset i records bytes hwell hrest ih =>
      rw [List.length_append] at hk
      by_cases hfirst : k < i.wire.length
      · refine ⟨[], _, [], _, rfl, rfl, .nil _, .cons hwell hrest, Nat.zero_le k, ?_⟩
        refine List.forall_mem_cons.2 ⟨Nat.add_lt_add_left hfirst offset, ?_⟩
        intro r hr
        obtain ⟨hoffset, -⟩ := hrest.bounds r hr
        have := r.offset_lt_stop
        omega
      · obtain ⟨more, rfl⟩ := Nat.exists_eq_add_of_le (Nat.le_of_not_lt hfirst)
        obtain ⟨front, back, done, todo, hcut⟩ := ih (Nat.le_of_add_le_add_left hk)
        refine ⟨⟨offset, i⟩ :: front, back, i.wire ++ done, todo, ?_, ?_,
          .cons hwell hcut.laid_front, ?_, ?_, ?_⟩
        · rw [hcut.records_eq, List.cons_append]
        · rw [hcut.bytes_eq, List.append_assoc]
        · rw [List.length_append, ← Nat.add_assoc]
          exact hcut.laid_back
        · rw [List.length_append]
          exact Nat.add_le_add_left hcut.done_le _
        · rw [← Nat.add_assoc]
          exact hcut.lt_stop

namespace Cut

variable {k : Nat} {front back : List Located} {done todo : Bytes}

theorem stop_le (h : Cut offset k records bytes front back done todo) :
    ∀ r ∈ front, r.stop ≤ offset + done.length := by
  intro r hr
  exact (h.laid_front.bounds r hr).2

theorem front_eq (h : Cut offset k records bytes front back done todo) :
    records.filter (fun r => r.stop ≤ offset + k) = front := by
  rw [h.records_eq, List.filter_append, List.filter_eq_self.2, List.filter_eq_nil_iff.2,
    List.append_nil]
  · intro r hr
    have := h.lt_stop r hr
    simpa using this
  · intro r hr
    have := h.stop_le r hr
    have := h.done_le
    simp only [decide_eq_true_eq]
    omega

/-- A cut that is not between two records is inside the first record behind it. -/
theorem exists_of_lt (h : Cut offset k records bytes front back done todo) (hk : k ≤ bytes.length)
    (hlt : done.length < k) :
    ∃ i later m, back = ⟨offset + done.length, i⟩ :: later ∧ i.WellFormed ∧
      (∀ r ∈ later, offset + k < r.offset) ∧ k = done.length + (m + 1) ∧ m + 1 < i.wire.length ∧
        bytes.take k = done ++ i.wire.take (m + 1) := by
  obtain ⟨m, rfl⟩ := Nat.exists_eq_add_of_lt hlt
  have hbytes := h.bytes_eq
  have hstop := h.lt_stop
  have hback := h.laid_back
  cases hback with
  | nil =>
      rw [hbytes, List.length_append, List.length_nil] at hk
      omega
  | @cons _ i later rest hwell hrest =>
      have hm := hstop _ List.mem_cons_self
      rw [Located.stop] at hm
      simp only at hm
      refine ⟨i, later, m, rfl, hwell, ?_, rfl, by omega, ?_⟩
      · intro r hr
        have := (hrest.bounds r hr).1
        omega
      · rw [hbytes, Nat.add_assoc, List.take_length_add_append,
          List.take_append_of_le_length (by omega)]

end Cut

end Laid

/-- What stands behind records is decoded on its own, as long as it does not begin with a NUL. -/
theorem Cursor.records_append {offset : Nat} {front : List Located} {done : Bytes}
    (h : Laid offset front done) {tail : Bytes} (htail : tail.head? ≠ some terminator) :
    Cursor.records ⟨offset, done ++ tail⟩ =
      ⟨front ++ (Cursor.records ⟨offset + done.length, tail⟩).records,
        (Cursor.records ⟨offset + done.length, tail⟩).fault⟩ := by
  induction h with
  | nil offset => rfl
  | @cons offset i front done hwell hrest ih =>
      have hhead : (done ++ tail).head? ≠ some terminator := by
        rw [List.head?_append]
        cases hdone : done.head? with
        | none => exact htail
        | some b =>
            rw [← hdone, Option.or_of_isSome (by simp [hdone])]
            exact hrest.head?_ne_terminator
      have hread : instruction ⟨offset, i.wire ++ (done ++ tail)⟩ =
          .ok (i, ⟨offset + i.wire.length, done ++ tail⟩) :=
        instruction_eq_ok_iff.2 ⟨hwell, ⟨rfl, rfl⟩, fun _ => hhead⟩
      rw [List.append_assoc, records_of_ok hread, ih, List.length_append, ← Nat.add_assoc]
      rfl

theorem recordsOf_of_decoding {stream : Bytes} {records : List Located}
    (h : Decoding.of stream = ⟨records, none⟩) : recordsOf stream = .ok records := by
  rw [recordsOf, h]

/-- A place between two records, or at one of the ends of their stream. -/
def IsBoundary (records : List Located) (k : Nat) : Prop :=
  k = 0 ∨ ∃ r ∈ records, r.stop = k

section

variable {stream done todo : Bytes} {records front back : List Located} {k : Nat}

theorem isBoundary_iff (h : Laid.Cut 0 k records stream front back done todo) :
    IsBoundary records k ↔ k = done.length := by
  constructor
  · rintro (rfl | ⟨r, hr, rfl⟩)
    · exact (Nat.le_zero.1 h.done_le).symm
    · rw [h.records_eq, List.mem_append] at hr
      rcases hr with hr | hr
      · have := h.stop_le r hr
        have := h.done_le
        omega
      · have := h.lt_stop r hr
        omega
  · rintro rfl
    rcases h.laid_front.exists_stop with hempty | ⟨r, hr, hstop⟩
    · exact .inl hempty
    · refine .inr ⟨r, ?_, by rw [hstop, Nat.zero_add]⟩
      rw [h.records_eq]
      exact List.mem_append_left back hr

/-- The record that clears all instances has four bytes, so a cut behind three of them is inside. -/
theorem mem_back_of_clearInstances (h : Laid.Cut 0 k records stream front back done todo)
    {r : Located} (hr : r ∈ records) (hclear : r.instruction = .clearInstances)
    (hk : k = r.offset + 3) : r ∈ back := by
  rw [h.records_eq, List.mem_append] at hr
  refine hr.resolve_left fun hr => ?_
  have hstop : r.stop = r.offset + 4 := by
    rw [Located.stop, hclear]
    rfl
  have := h.stop_le r hr
  have := h.done_le
  omega

/-- The records in front of the cut are decoded, and then what is left of the record that is cut. -/
theorem decoding_of_take {i : Instruction} {m : Nat} (hfront : Laid 0 front done)
    (htake : stream.take k = done ++ i.wire.take (m + 1)) :
    Decoding.of (stream.take k) =
      ⟨front ++ (Cursor.records ⟨done.length, i.wire.take (m + 1)⟩).records,
        (Cursor.records ⟨done.length, i.wire.take (m + 1)⟩).fault⟩ := by
  have hhead : (i.wire.take (m + 1)).head? ≠ some terminator := by
    intro hhead
    exact Laid.byte_ne_terminator i.opcode (Option.some.inj hhead)
  rw [Decoding.of, htake, Cursor.records_append hfront hhead, Nat.zero_add]

end

/-- A stream that is cut off is recognized, wherever the cut is.  Between two records it is a stream
of its own.  Inside a record, the decoder gives the records before it and fails; there is one place,
in the record that clears all instances, at which it finds another record. -/
theorem recordsOf_take {stream : Bytes} {records : List Located}
    (h : recordsOf stream = .ok records) {k : Nat} (hk : k ≤ stream.length) :
    (IsBoundary records k →
        recordsOf (stream.take k) = .ok (records.filter fun r => r.stop ≤ k)) ∧
      (∀ r ∈ records, r.instruction = .clearInstances → k = r.offset + 3 →
        recordsOf (stream.take k) =
          .ok ((records.filter fun r => r.stop ≤ k) ++ [⟨r.offset, .addInstance "" ""⟩])) ∧
      (¬ IsBoundary records k →
        (∀ r ∈ records, r.instruction = .clearInstances → k ≠ r.offset + 3) →
          ∃ r ∈ records, ∃ fault, r.offset < k ∧ k < r.stop ∧
            recordsOf (stream.take k) = .error fault ∧
              (Decoding.of (stream.take k)).records = (records.filter fun r => r.stop ≤ k) ∧
                RunsOut r.offset r.offset r.instruction.wireFields fault) := by
  obtain ⟨front, back, done, todo, hcut⟩ := (recordsOf_iff_laid.1 h).exists_cut hk
  have hfilter : (records.filter fun r => r.stop ≤ k) = front := by
    have hfront := hcut.front_eq
    rwa [Nat.zero_add] at hfront
  rw [hfilter, isBoundary_iff hcut]
  refine ⟨?_, ?_, ?_⟩
  · intro hboundary
    have htake : stream.take k = done := by
      rw [hcut.bytes_eq, hboundary, List.take_left]
    rw [htake]
    exact recordsOf_iff_laid.2 hcut.laid_front
  · intro r hr hclear hplace
    have hback := mem_back_of_clearInstances hcut hr hclear hplace
    have hle := (hcut.laid_back.bounds r hback).1
    obtain ⟨i, later, m, rfl, hwell, hlater, rfl, hm, htake⟩ := hcut.exists_of_lt hk (by omega)
    -- no record behind the one that is cut begins in front of the cut
    obtain rfl : r = ⟨0 + done.length, i⟩ := by
      refine (List.mem_cons.1 hback).resolve_right fun hr => ?_
      have := hlater r hr
      omega
    simp only at hclear hplace
    obtain rfl : m = 2 := by omega
    subst hclear
    refine recordsOf_of_decoding ?_
    rw [decoding_of_take hcut.laid_front htake,
      Cursor.records_of_ok (Cursor.instruction_clearInstances_take _),
      Cursor.records_of_isEmpty rfl, Nat.zero_add]
  · intro hboundary hclear
    obtain ⟨i, later, m, rfl, hwell, hlater, rfl, hm, htake⟩ :=
      hcut.exists_of_lt hk (Nat.lt_of_le_of_ne hcut.done_le fun heq => hboundary heq.symm)
    have hmem : (⟨done.length, i⟩ : Located) ∈ records := by
      rw [hcut.records_eq, Nat.zero_add]
      exact List.mem_append_right front List.mem_cons_self
    have hnot : ¬ (i = .clearInstances ∧ m + 1 = 3) := by
      rintro ⟨hi, hm⟩
      exact hclear _ hmem hi (congrArg (done.length + ·) hm)
    obtain ⟨fault, hread, hfault⟩ := Cursor.instruction_take hwell done.length hm hnot
    have hdecoding : Decoding.of (stream.take (done.length + (m + 1))) = ⟨front, some fault⟩ := by
      rw [decoding_of_take hcut.laid_front htake,
        Cursor.records_of_error (List.cons_ne_nil _ _) hread, List.append_nil]
    refine ⟨_, hmem, fault, ?_, ?_, ?_, ?_, hfault⟩
    · exact Nat.lt_add_of_pos_right (Nat.succ_pos m)
    · exact Nat.add_lt_add_left hm done.length
    · rw [recordsOf, hdecoding]
    · rw [hdecoding]

/-- A stream that clears all instances and removes one, cut off behind a record, behind two empty
strings and inside of a string. -/
theorem recordsOf_take_clearInstances :
    recordsOf [0x49, 0, 0, 0, 0x69, 0x61, 0] =
        .ok [⟨0, .clearInstances⟩, ⟨4, .removeInstance "a"⟩] ∧
      recordsOf [0x49, 0, 0, 0] = .ok [⟨0, .clearInstances⟩] ∧
      recordsOf [0x49, 0, 0] = .ok [⟨0, .addInstance "" ""⟩] ∧
      ∃ fault, recordsOf [0x49, 0, 0, 0, 0x69, 0x61] = .error fault ∧
        RunsOut 4 4 (Instruction.removeInstance "a").wireFields fault := by
  have hstream : recordsOf [0x49, 0, 0, 0, 0x69, 0x61, 0] =
      .ok [⟨0, .clearInstances⟩, ⟨4, .removeInstance "a"⟩] := by
    decide +kernel
  refine ⟨hstream, ?_, ?_, ?_⟩
  · exact (recordsOf_take (k := 4) hstream (by decide)).1 (.inr ⟨_, List.mem_cons_self, rfl⟩)
  · exact (recordsOf_take (k := 3) hstream (by decide)).2.1 _ List.mem_cons_self rfl rfl
  · have hboundary : ¬ IsBoundary [⟨0, .clearInstances⟩, ⟨4, .removeInstance "a"⟩] 6 := by
      unfold IsBoundary
      decide
    obtain ⟨r, hr, fault, -, hstop, hfails, -, hfault⟩ :=
      (recordsOf_take (k := 6) hstream (by decide)).2.2 hboundary (by decide)
    simp only [List.mem_cons, List.not_mem_nil, or_false] at hr
    rcases hr with rfl | rfl
    · exact absurd hstop (by decide)
    · exact ⟨fault, hfails, hfault⟩

end Patchbay
