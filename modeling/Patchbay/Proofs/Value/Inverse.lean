import Patchbay.Proofs.Script.WellFormed
import Patchbay.Proofs.Value.Integers

/-!
# Values from bytes and bytes from values

The bytes of a tag and its values belong to each other, one to one: bytes are read as a value
exactly if the value has the tag and these are its bytes (`decode?_eq_some_iff_bytes`).  That
reading undoes writing, and that no two byte strings are read as one value, are both read off from
this.

Integers are also read in words of 64 bits: short bytes are padded with zeros, and the sign bit is
shifted to the top and back.  Strings are also read as UTF-8 first and then checked.  Both ways give
the same values (`decodeInWords?_eq`).
-/

namespace Patchbay

/-! ## Reading in words -/

namespace IntegerType

/-- The integer of a type in a word whose low bytes are the given ones.  The shift up and the
arithmetic shift down copy the sign into the high bytes. -/
def ofWord (type : IntegerType) (bytes : Bytes) : Value :=
  let word := BitVec.ofNat 64 (ofLittleEndian (bytes ++ List.replicate (8 - bytes.length) 0))
  let shift := 64 - 8 * type.width.bytes
  if type.signed then .signed ((word <<< shift).sshiftRight shift).toInt
  else .unsigned word.toNat

/-- The sign bit of a short pattern decides what is above it. -/
theorem toInt_sshiftRight_shiftLeft (type : IntegerType) {p : ℕ} (hp : p < type.modulus) :
    ((BitVec.ofNat 64 p <<< (64 - 8 * type.width.bytes)).sshiftRight
      (64 - 8 * type.width.bytes)).toInt =
        if type.modulus / 2 ≤ p then (p : ℤ) - type.modulus else p := by
  obtain ⟨signed, width⟩ := type
  rw [BitVec.toInt_sshiftRight, BitVec.toInt_eq_toNat_cond, BitVec.toNat_shiftLeft,
    BitVec.toNat_ofNat, Int.shiftRight_eq_div_pow, Nat.shiftLeft_eq]
  cases width
  all_goals
    simp only [modulus, Width.bytes, Nat.pow_eq] at hp ⊢
    split_ifs <;> omega

theorem ofWord_eq (type : IntegerType) {bytes : Bytes} (hlength : bytes.length = type.width.bytes) :
    type.ofWord bytes = type.ofPattern (ofLittleEndian bytes) := by
  have hpadded : ofLittleEndian (bytes ++ List.replicate (8 - bytes.length) 0) =
      ofLittleEndian bytes := by
    rw [ofLittleEndian_append, ofLittleEndian_replicate_zero, Nat.mul_zero, Nat.add_zero]
  have hp : ofLittleEndian bytes < type.modulus := by
    rw [modulus, ← hlength]
    exact ofLittleEndian_lt bytes
  unfold ofWord ofPattern toValue
  rw [hpadded]
  simp only [type.toInt_sshiftRight_shiftLeft hp]
  generalize ofLittleEndian bytes = p at hp
  cases type.signed with
  | true =>
      simp only [if_true, Bool.true_and, decide_eq_true_eq]
      split_ifs <;> rfl
  | false =>
      have hword : p % 2 ^ 64 = p := by
        refine Nat.mod_eq_of_lt (hp.trans_le ?_)
        unfold modulus
        cases type.width <;> decide
      simp only [Bool.false_eq_true, if_false, Bool.false_and, BitVec.toNat_ofNat, hword,
        Int.toNat_natCast]

end IntegerType

namespace Tag

/-- The value of bytes as words have it: integers in a word of 64 bits, strings through UTF-8. -/
def decodeInWords? (tag : Tag) (bytes : Bytes) : Option Value :=
  match tag with
  | integer type =>
      if bytes.length = type.width.bytes then some (type.ofWord bytes) else none
  | string =>
      (Utf8.decode? bytes).bind fun text =>
        if canTravel text then some (.string (String.ofList text)) else none
  | other => other.decode? bytes

/-! ## One value, one byte string -/

theorem all_ascii_iff {bytes : Bytes} :
    bytes.all (fun b => b < 128 && b != 0) = true ↔ ∀ b ∈ bytes, b.toNat < 128 ∧ b.toNat ≠ 0 := by
  simp [UInt8.lt_iff_toNat_lt, ← UInt8.toNat_inj]

theorem decode?_string_iff {bytes : Bytes} {v : Value} :
    decode? .string bytes = some v ↔ Holds .string v ∧ v.bytes 0 = bytes := by
  constructor
  · intro h
    simp only [decode?] at h
    split at h
    · next hall =>
        cases h
        obtain ⟨htravel, hbytes⟩ := asciiText_eq_iff.1 ⟨all_ascii_iff.1 hall, rfl⟩
        exact ⟨.string htravel, hbytes⟩
    · cases h
  · rintro ⟨hholds, hbytes⟩
    cases hholds with
    | string htravel =>
        obtain ⟨hall, htext⟩ := asciiText_eq_iff.2 ⟨htravel, hbytes⟩
        simp only [decode?, all_ascii_iff.2 hall, htext, if_true]

/-- Bytes are read as a value exactly if it is a value of the tag and they are its bytes. -/
theorem decode?_eq_some_iff_bytes {tag : Tag} {bytes : Bytes} {v : Value} :
    tag.decode? bytes = some v ↔ tag.Holds v ∧ (TaggedValue.mk tag v).bytes = bytes := by
  cases hwidth : tag.width? with
  | some width =>
      rw [decode?_eq_some_iff hwidth, TaggedValue.bytes, hwidth]
      rfl
  | none =>
      cases tag with
      | string => exact decode?_string_iff
      | _ => cases hwidth

/-! ## What is no value -/

/-- The bytes that no value of a tag has. -/
inductive Undecodable : Tag → Bytes → Prop
  | length {tag : Tag} {bytes : Bytes} {width : ℕ} (hwidth : tag.width? = some width)
      (hlength : bytes.length ≠ width) : Undecodable tag bytes
  | boolean {b : UInt8} (hzero : b ≠ 0) (hone : b ≠ 1) : Undecodable .bool [b]
  | text {bytes : Bytes} {b : UInt8} (hb : b ∈ bytes) (hbad : b = 0 ∨ 127 < b) :
      Undecodable .string bytes

theorem decode?_eq_none_iff {tag : Tag} {bytes : Bytes} :
    tag.decode? bytes = none ↔ tag.Undecodable bytes := by
  constructor
  · intro h
    cases hwidth : tag.width? with
    | some width =>
        by_cases hlength : bytes.length = width
        · obtain ⟨rfl, b, rfl, hzero, hone⟩ := of_decode?_eq_none hwidth hlength h
          exact .boolean hzero hone
        · exact .length hwidth hlength
    | none =>
        cases tag with
        | string =>
            by_contra hfine
            have hall : bytes.all (fun b => b < 128 && b != 0) = true := by
              rw [all_ascii_iff]
              intro b hb
              have hgood : ¬ (b = 0 ∨ 127 < b) := fun hbad => hfine (.text hb hbad)
              rw [not_or, UInt8.lt_iff_toNat_lt, ← UInt8.toNat_inj] at hgood
              exact ⟨Nat.lt_succ_of_le (Nat.not_lt.1 hgood.2), hgood.1⟩
            simp only [decode?, hall, if_true] at h
            cases h
        | _ => cases hwidth
  · intro h
    rw [Option.eq_none_iff_forall_ne_some]
    intro v hv
    obtain ⟨hholds, hbytes⟩ := decode?_eq_some_iff_bytes.1 hv
    cases h with
    | @length tag bytes width hwidth hlength =>
        refine hlength ?_
        rw [← hbytes, TaggedValue.bytes, hwidth]
        exact hholds.length_bytes hwidth
    | @boolean b hzero hone =>
        cases hholds with
        | bool answer =>
            obtain rfl := (List.cons.inj hbytes).1
            cases answer
            · exact hzero rfl
            · exact hone rfl
    | @text bytes b hb hbad =>
        cases hholds with
        | string htravel =>
            obtain ⟨hlow, hne⟩ := (asciiText_eq_iff.2 ⟨htravel, hbytes⟩).1 b hb
            rcases hbad with rfl | hhigh
            · exact hne rfl
            · rw [UInt8.lt_iff_toNat_lt] at hhigh
              exact Nat.lt_irrefl _ (Nat.lt_of_lt_of_le hhigh (Nat.le_of_lt_succ hlow))

/-- UTF-8 has no way of its own to write what can travel. -/
theorem decodeUtf8?_eq (bytes : Bytes) :
    ((Utf8.decode? bytes).bind fun text =>
      if canTravel text then some (.string (String.ofList text)) else none) =
        decode? .string bytes := by
  refine Option.ext fun v => ?_
  rw [decode?_string_iff, Option.bind_eq_some_iff]
  constructor
  · rintro ⟨text, htext, hv⟩
    split at hv
    · next htravel =>
        cases hv
        rw [← String.toList_ofList (l := text)] at htravel
        refine ⟨.string htravel, ?_⟩
        rw [Value.bytes, String.toList_ofList]
        exact Utf8.encode_of_decode? htext
    · cases hv
  · rintro ⟨hholds, hbytes⟩
    cases hholds with
    | @string s htravel =>
        refine ⟨s.toList, ?_, ?_⟩
        · rw [← hbytes]
          exact Utf8.decode?_encode s.toList
        · rw [if_pos htravel, String.ofList_toList]

theorem decodeInWords?_eq (tag : Tag) (bytes : Bytes) :
    tag.decodeInWords? bytes = tag.decode? bytes := by
  cases tag with
  | integer type =>
      simp only [decodeInWords?, decode?, beq_iff_eq]
      split
      · next hlength => rw [type.ofWord_eq hlength]
      · rfl
  | string => exact decodeUtf8?_eq bytes
  | bool => rfl
  | double => rfl
  | fixPoint => rfl

/-- Decoding undoes encoding, and no two byte strings are decoded as one value; values are compared
by their patterns, so no two doubles count as equal here.  Nothing is decoded that is not of the
width of the tag, the byte of no boolean, or not ASCII or a NUL in a string.  All this is also what
reading in words gives. -/
theorem decode?_inverts_encode (tag : Tag) :
    (∀ literal v, tag.encode literal = .ok v →
      v.tag = tag ∧ (∀ width, tag.width? = some width → v.bytes.length = width) ∧
        tag.decode? v.bytes = some v.value) ∧
    (∀ bytes bytes' v, tag.decode? bytes = some v → tag.decode? bytes' = some v →
      bytes = bytes') ∧
    (∀ bytes, tag.decode? bytes = none ↔ tag.Undecodable bytes) ∧
    ∀ bytes, tag.decodeInWords? bytes = tag.decode? bytes := by
  refine ⟨?_, ?_, fun bytes => decode?_eq_none_iff, tag.decodeInWords?_eq⟩
  · intro literal v h
    obtain ⟨value, hvalue, rfl⟩ := of_map_eq_ok h
    have hholds := holds_of_valueOfLiteral hvalue
    refine ⟨rfl, ?_, decode?_eq_some_iff_bytes.2 ⟨hholds, rfl⟩⟩
    intro width hwidth
    rw [TaggedValue.bytes, hwidth]
    exact hholds.length_bytes hwidth
  · intro bytes bytes' v h h'
    exact (decode?_eq_some_iff_bytes.1 h).2.symm.trans (decode?_eq_some_iff_bytes.1 h').2

/-- The least integer of two bytes, and a fix point zero that has a sign. -/
theorem decode?_inverts_encode_signs :
    (decode? (.integer ⟨true, .two⟩) [0x00, 0x80] = some (.signed (-32768)) ∧
      decode? .fixPoint [0x00, 0x20] = some (.fixPoint ⟨0x2000⟩)) ∧
    ∀ bytes, decode? .fixPoint bytes = some (.fixPoint ⟨0x2000⟩) → bytes = [0x00, 0x20] := by
  have hinteger : encode (.integer ⟨true, .two⟩) "-32768".toList =
      .ok ⟨.integer ⟨true, .two⟩, .signed (-32768)⟩ := by
    decide +kernel
  have hfixPoint : encode .fixPoint "-0.00001".toList = .ok ⟨.fixPoint, .fixPoint ⟨0x2000⟩⟩ := by
    decide +kernel
  refine ⟨⟨?_, ?_⟩, ?_⟩
  · exact ((decode?_inverts_encode _).1 _ _ hinteger).2.2
  · exact ((decode?_inverts_encode _).1 _ _ hfixPoint).2.2
  · intro bytes h
    exact (decode?_inverts_encode _).2.1 _ _ _ h ((decode?_inverts_encode _).1 _ _ hfixPoint).2.2

end Tag

end Patchbay
