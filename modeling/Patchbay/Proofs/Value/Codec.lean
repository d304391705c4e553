import Mathlib.Tactic.SplitIfs
import Patchbay.Proofs.Text.Utf8
import Patchbay.Value.Codec

/-!
# Values and their bytes

`Tag.Holds tag v` says that `v` is a value of the type of `tag`.  Such values have exactly one
written form each, and the bytes of a type are read back as exactly its values:
`decode?_eq_some_iff`.

The fixed widths rest on two facts about numbers.  Little-endian bytes and numbers below `256 ^ n`
determine each other, and an integer of a type and its bit pattern, a number below the modulus of
the type, determine each other by two's complement.
-/

namespace Patchbay

/-- The values of a tag. -/
inductive Tag.Holds : Tag → Value → Prop
  | integer {type : IntegerType} {n : Int} (least : type.least ≤ n) (greatest : n ≤ type.greatest) :
      Holds (.integer type) (type.toValue n)
  | bool (b : Bool) : Holds .bool (.bool b)
  | double (v : Binary64) : Holds .double (.double v)
  | fixPoint (p : FixPoint) : Holds .fixPoint (.fixPoint p)
  | string {s : String} (travels : canTravel s.toList = true) : Holds .string (.string s)

/-! ## Little-endian numbers -/

theorem length_littleEndian (width n : Nat) : (littleEndian width n).length = width := by
  induction width generalizing n with
  | zero => rfl
  | succ width ih => rw [littleEndian, List.length_cons, ih]

theorem ofLittleEndian_littleEndian (width n : Nat) :
    ofLittleEndian (littleEndian width n) = n % Nat.pow 256 width := by
  induction width generalizing n with
  | zero => exact (Nat.mod_one n).symm
  | succ width ih =>
      have hbyte : (UInt8.ofNat (n % 256)).toNat = n % 256 := by
        rw [UInt8.toNat_ofNat', Nat.mod_mod]
      have hpow : Nat.pow 256 (width + 1) = 256 * Nat.pow 256 width := Nat.mul_comm _ _
      rw [littleEndian, ofLittleEndian, hbyte, ih, hpow, Nat.mod_mul]

theorem ofLittleEndian_lt (bytes : Bytes) : ofLittleEndian bytes < Nat.pow 256 bytes.length := by
  induction bytes with
  | nil => exact Nat.one_pos
  | cons b rest ih =>
      have hb := b.toNat_lt
      have hpow : Nat.pow 256 (rest.length + 1) = 256 * Nat.pow 256 rest.length := Nat.mul_comm _ _
      rw [ofLittleEndian, List.length_cons, hpow]
      omega

theorem littleEndian_ofLittleEndian (bytes : Bytes) :
    littleEndian bytes.length (ofLittleEndian bytes) = bytes := by
  induction bytes with
  | nil => rfl
  | cons b rest ih =>
      have hb := b.toNat_lt
      have hmod : ofLittleEndian (b :: rest) % 256 = b.toNat := by
        rw [ofLittleEndian]
        omega
      have hdiv : ofLittleEndian (b :: rest) / 256 = ofLittleEndian rest := by
        rw [ofLittleEndian]
        omega
      rw [List.length_cons, littleEndian, hmod, hdiv, ih, UInt8.ofNat_toNat]

/-- Bytes of a width are those of exactly one number below the modulus. -/
theorem littleEndian_eq_iff {width n : Nat} (hn : n < Nat.pow 256 width) {bytes : Bytes} :
    littleEndian width n = bytes ↔ bytes.length = width ∧ ofLittleEndian bytes = n := by
  constructor
  · rintro rfl
    exact ⟨length_littleEndian width n,
      (ofLittleEndian_littleEndian width n).trans (Nat.mod_eq_of_lt hn)⟩
  · rintro ⟨rfl, rfl⟩
    exact littleEndian_ofLittleEndian bytes

/-! ## Two's complement -/

namespace IntegerType

/-- The bit pattern of an integer of a type. -/
def pattern (type : IntegerType) (n : Int) : Nat :=
  (n % type.modulus).toNat

theorem exists_half (type : IntegerType) : ∃ half : Nat, 0 < half ∧ type.modulus = 2 * half := by
  obtain ⟨signed, width⟩ := type
  cases width
  · exact ⟨128, by decide, rfl⟩
  · exact ⟨32768, by decide, rfl⟩
  · exact ⟨2147483648, by decide, rfl⟩
  · exact ⟨9223372036854775808, by decide, rfl⟩

theorem pattern_of_nonneg (type : IntegerType) {n : Int} (hnonneg : 0 ≤ n)
    (hlt : n < type.modulus) : (type.pattern n : Int) = n := by
  unfold pattern
  rw [Int.emod_eq_of_lt hnonneg hlt]
  omega

theorem pattern_of_neg (type : IntegerType) {n : Int} (hneg : n < 0)
    (hle : -(type.modulus : Int) ≤ n) : (type.pattern n : Int) = n + type.modulus := by
  unfold pattern
  rw [← Int.add_emod_right, Int.emod_eq_of_lt (by omega) (by omega)]
  omega

theorem pattern_lt (type : IntegerType) (n : Int) : type.pattern n < type.modulus := by
  obtain ⟨half, hhalf, hmodulus⟩ := type.exists_half
  have hpos : (0 : Int) < type.modulus := by omega
  have hnonneg := Int.emod_nonneg n (Int.ne_of_gt hpos)
  have hlt := Int.emod_lt_of_pos n hpos
  unfold pattern
  omega

/-- An integer in range is written as its pattern, whatever its sign. -/
theorem bytes_toValue {type : IntegerType} {n : Int} (hleast : type.least ≤ n)
    (hgreatest : n ≤ type.greatest) :
    (type.toValue n).bytes type.width.bytes = littleEndian type.width.bytes (type.pattern n) := by
  cases hsigned : type.signed with
  | true =>
      rw [toValue, if_pos hsigned]
      rfl
  | false =>
      have hsigned' : ¬ type.signed = true := Bool.eq_false_iff.1 hsigned
      rw [least, if_neg hsigned'] at hleast
      rw [greatest, if_neg hsigned'] at hgreatest
      have hpattern := type.pattern_of_nonneg hleast (Int.lt_of_le_sub_one hgreatest)
      rw [toValue, if_neg hsigned', Value.bytes]
      congr 1
      omega

theorem ofPattern_pattern {type : IntegerType} {n : Int} (hleast : type.least ≤ n)
    (hgreatest : n ≤ type.greatest) : type.ofPattern (type.pattern n) = type.toValue n := by
  obtain ⟨half, hhalf, hmodulus⟩ := type.exists_half
  unfold ofPattern toValue
  cases hsigned : type.signed with
  | true =>
      simp only [least, greatest, hsigned, if_true] at hleast hgreatest
      -- the sign decides in which half of the patterns the integer is found
      by_cases hneg : n < 0
      · have hpattern := type.pattern_of_neg hneg (by omega)
        have hhigh : type.modulus / 2 ≤ type.pattern n := by omega
        simp only [Bool.true_and, decide_eq_true hhigh, if_true, hpattern, Int.add_sub_cancel]
      · have hpattern := type.pattern_of_nonneg (Int.not_lt.1 hneg) (by omega)
        have hlow : ¬ type.modulus / 2 ≤ type.pattern n := by omega
        simp only [Bool.true_and, decide_eq_false hlow, Bool.false_eq_true, if_false, if_true,
          hpattern]
  | false =>
      simp only [least, greatest, hsigned, Bool.false_eq_true, if_false] at hleast hgreatest
      have hpattern := type.pattern_of_nonneg hleast (Int.lt_of_le_sub_one hgreatest)
      simp only [Bool.false_and, Bool.false_eq_true, if_false, hpattern]

/-- Every pattern is that of an integer in range. -/
theorem exists_of_pattern {type : IntegerType} {p : Nat} (hp : p < type.modulus) :
    ∃ n : Int, type.least ≤ n ∧ n ≤ type.greatest ∧ type.pattern n = p := by
  obtain ⟨half, hhalf, hmodulus⟩ := type.exists_half
  by_cases hhigh : type.signed = true ∧ half ≤ p
  · -- the upper half of the patterns stands for the negative integers
    have hpattern := type.pattern_of_neg (n := (p : Int) - type.modulus) (by omega) (by omega)
    refine ⟨(p : Int) - type.modulus, ?_, ?_, by omega⟩
    · rw [least, if_pos hhigh.1]
      omega
    · rw [greatest, if_pos hhigh.1]
      omega
  · have hpattern := type.pattern_of_nonneg (n := (p : Int)) (by omega) (by omega)
    refine ⟨p, ?_, ?_, by omega⟩
    · rw [least]
      split <;> omega
    · rw [greatest]
      split
      · next hsigned =>
          have hlow : p < half := Nat.not_le.1 fun h => hhigh ⟨hsigned, h⟩
          omega
      · omega

end IntegerType

/-! ## ASCII text -/

theorem canTravel_iff {text : List Char} :
    canTravel text = true ↔ ∀ c ∈ text, c.toNat < 128 ∧ c.toNat ≠ 0 := by
  simp [canTravel]

/-- Every byte is the number of a character. -/
theorem toNat_ofNat_toNat (b : UInt8) : (Char.ofNat b.toNat).toNat = b.toNat := by
  have hb := b.toNat_lt
  have hvalid : b.toNat.isValidChar := Or.inl (by omega)
  rw [Char.ofNat, dif_pos hvalid]
  rfl

/-- A text that can travel has one byte for each character, and none of them is a terminator. -/
theorem encode_of_canTravel {text : List Char} (h : canTravel text = true) :
    Utf8.encode text = text.map fun c => UInt8.ofNat c.toNat := by
  induction text with
  | nil => rfl
  | cons c text ih =>
      rw [canTravel_iff] at h ih
      have hc := (h c List.mem_cons_self).1
      have htext := ih fun d hd => h d (List.mem_cons_of_mem c hd)
      rw [Utf8.encode_cons, Utf8.encodeChar_of_lt hc, htext]
      rfl

/-- ASCII bytes without a terminator are the bytes of exactly one string that can travel. -/
theorem asciiText_eq_iff {bytes : Bytes} {s : String} :
    ((∀ b ∈ bytes, b.toNat < 128 ∧ b.toNat ≠ 0) ∧ Tag.asciiText bytes = s) ↔
      canTravel s.toList = true ∧ Utf8.encode s.toList = bytes := by
  constructor
  · rintro ⟨hbytes, rfl⟩
    have htravel : canTravel (Tag.asciiText bytes).toList = true := by
      rw [canTravel_iff, Tag.asciiText, String.toList_ofList]
      intro c hc
      obtain ⟨b, hb, rfl⟩ := List.mem_map.1 hc
      rw [toNat_ofNat_toNat b]
      exact hbytes b hb
    refine ⟨htravel, ?_⟩
    rw [encode_of_canTravel htravel, Tag.asciiText, String.toList_ofList, List.map_map]
    calc bytes.map _ = bytes.map id := by
          refine List.map_congr_left fun b _ => ?_
          rw [Function.comp_apply, toNat_ofNat_toNat b, UInt8.ofNat_toNat, id]
      _ = bytes := List.map_id bytes
  · rintro ⟨htravel, rfl⟩
    rw [encode_of_canTravel htravel]
    rw [canTravel_iff] at htravel
    -- below 128 a byte and its character have the same number
    have hbyte : ∀ c ∈ s.toList, (UInt8.ofNat c.toNat).toNat = c.toNat := by
      intro c hc
      rw [UInt8.toNat_ofNat', Nat.mod_eq_of_lt]
      exact Nat.lt_trans (htravel c hc).1 (by decide)
    constructor
    · intro b hb
      obtain ⟨c, hc, rfl⟩ := List.mem_map.1 hb
      rw [hbyte c hc]
      exact htravel c hc
    · calc Tag.asciiText _ = String.ofList (s.toList.map id) := by
            rw [Tag.asciiText, List.map_map]
            refine congrArg String.ofList (List.map_congr_left fun c hc => ?_)
            rw [Function.comp_apply, hbyte c hc, Char.ofNat_toNat, id]
        _ = s := by rw [List.map_id, String.ofList_toList]

/-! ## Values -/

namespace Tag

/-- A byte is read as a tag exactly when it is the code of the tag. -/
theorem ofByte?_eq_some_iff {b : UInt8} {tag : Tag} : ofByte? b = some tag ↔ b = tag.codeByte := by
  constructor
  · intro h
    rw [codeByte, code_of_ofCode? h, toNat_ofNat_toNat, UInt8.ofNat_toNat]
  · rintro rfl
    exact ofByte?_codeByte tag

theorem decode?_integer_iff {type : IntegerType} {bytes : Bytes} {v : Value} :
    decode? (.integer type) bytes = some v ↔
      Holds (.integer type) v ∧ v.bytes type.width.bytes = bytes := by
  constructor
  · intro h
    simp only [decode?, beq_iff_eq] at h
    split at h
    · next hlength =>
        cases h
        have hlt : ofLittleEndian bytes < type.modulus := by
          rw [IntegerType.modulus, ← hlength]
          exact ofLittleEndian_lt bytes
        obtain ⟨n, hleast, hgreatest, hpattern⟩ := IntegerType.exists_of_pattern hlt
        rw [← hpattern, IntegerType.ofPattern_pattern hleast hgreatest]
        refine ⟨.integer hleast hgreatest, ?_⟩
        rw [IntegerType.bytes_toValue hleast hgreatest, hpattern, ← hlength]
        exact littleEndian_ofLittleEndian bytes
    · cases h
  · rintro ⟨hholds, hbytes⟩
    cases hholds with
    | @integer _ n hleast hgreatest =>
        rw [IntegerType.bytes_toValue hleast hgreatest,
          littleEndian_eq_iff (type.pattern_lt n)] at hbytes
        simp only [decode?, hbytes.1, hbytes.2, beq_self_eq_true, if_true,
          IntegerType.ofPattern_pattern hleast hgreatest]

theorem decode?_bool_iff {bytes : Bytes} {v : Value} :
    decode? .bool bytes = some v ↔ Holds .bool v ∧ v.bytes 1 = bytes := by
  constructor
  · intro h
    simp only [decode?, beq_iff_eq] at h
    split at h
    · split_ifs at h with hzero hone
      · cases h
        exact ⟨.bool false, by rw [hzero]; rfl⟩
      · cases h
        exact ⟨.bool true, by rw [hone]; rfl⟩
    · cases h
  · rintro ⟨hholds, rfl⟩
    cases hholds with
    | bool b => cases b <;> rfl

theorem decode?_double_iff {bytes : Bytes} {v : Value} :
    decode? .double bytes = some v ↔ Holds .double v ∧ v.bytes 8 = bytes := by
  constructor
  · intro h
    simp only [decode?, beq_iff_eq] at h
    split at h
    · next hlength =>
        cases h
        refine ⟨.double _, ?_⟩
        have hlt : ofLittleEndian bytes < 2 ^ 64 := by
          have hlt := ofLittleEndian_lt bytes
          rw [hlength] at hlt
          exact hlt
        rw [Value.bytes, UInt64.toNat_ofNat', Nat.mod_eq_of_lt hlt, ← hlength]
        exact littleEndian_ofLittleEndian bytes
    · cases h
  · rintro ⟨hholds, hbytes⟩
    cases hholds with
    | double w =>
        rw [Value.bytes, littleEndian_eq_iff w.bits.toNat_lt] at hbytes
        simp only [decode?, hbytes.1, hbytes.2, beq_self_eq_true, if_true, UInt64.ofNat_toNat]

theorem decode?_fixPoint_iff {bytes : Bytes} {v : Value} :
    decode? .fixPoint bytes = some v ↔ Holds .fixPoint v ∧ v.bytes 2 = bytes := by
  constructor
  · intro h
    simp only [decode?, beq_iff_eq] at h
    split at h
    · next hlength =>
        cases h
        refine ⟨.fixPoint _, ?_⟩
        have hlt : ofLittleEndian bytes < 2 ^ 16 := by
          have hlt := ofLittleEndian_lt bytes
          rw [hlength] at hlt
          exact hlt
        rw [Value.bytes, UInt16.toNat_ofNat', Nat.mod_eq_of_lt hlt, ← hlength]
        exact littleEndian_ofLittleEndian bytes
    · cases h
  · rintro ⟨hholds, hbytes⟩
    cases hholds with
    | fixPoint p =>
        rw [Value.bytes, littleEndian_eq_iff p.bits.toNat_lt] at hbytes
        simp only [decode?, hbytes.1, hbytes.2, beq_self_eq_true, if_true, UInt16.ofNat_toNat]

/-- The bytes of a type of fixed width are those of exactly one of its values. -/
theorem decode?_eq_some_iff {tag : Tag} {width : Nat} (hwidth : tag.width? = some width)
    {bytes : Bytes} {v : Value} :
    tag.decode? bytes = some v ↔ tag.Holds v ∧ v.bytes width = bytes := by
  cases tag with
  | integer type =>
      cases hwidth
      exact decode?_integer_iff
  | bool =>
      cases hwidth
      exact decode?_bool_iff
  | double =>
      cases hwidth
      exact decode?_double_iff
  | fixPoint =>
      cases hwidth
      exact decode?_fixPoint_iff
  | string => cases hwidth

/-- Bytes of the width of a tag are those of a value, unless they are the byte of a boolean. -/
theorem of_decode?_eq_none {tag : Tag} {width : Nat} (hwidth : tag.width? = some width)
    {bytes : Bytes} (hlength : bytes.length = width) (h : tag.decode? bytes = none) :
    tag = .bool ∧ ∃ b, bytes = [b] ∧ b ≠ 0 ∧ b ≠ 1 := by
  unfold decode? at h
  cases tag with
  | integer type =>
      cases hwidth
      simp [hlength] at h
  | bool =>
      cases hwidth
      obtain ⟨b, rfl⟩ := List.length_eq_one_iff.1 hlength
      refine ⟨rfl, b, rfl, ?_, ?_⟩
      · rintro rfl
        cases h
      · rintro rfl
        cases h
  | double =>
      cases hwidth
      simp [hlength] at h
  | fixPoint =>
      cases hwidth
      simp [hlength] at h
  | string => cases hwidth

theorem Holds.length_bytes {tag : Tag} {v : Value} (h : tag.Holds v) {width : Nat}
    (hwidth : tag.width? = some width) : (v.bytes width).length = width := by
  cases h with
  | integer hleast hgreatest =>
      cases hwidth
      rw [IntegerType.bytes_toValue hleast hgreatest, length_littleEndian]
  | bool b =>
      cases hwidth
      rfl
  | double v =>
      cases hwidth
      exact length_littleEndian 8 v.bits.toNat
  | fixPoint p =>
      cases hwidth
      exact length_littleEndian 2 p.bits.toNat
  | string travels => cases hwidth

end Tag

end Patchbay
