import Patchbay.Proofs.Value.Texts

/-!
# Integer literals

An integer literal is an optional sign and one or more digits, and it stands for an integer however
long it is (`Text.Denotes`).  It is read into 128 bits, which may not hold it, then compared with
the bounds of a type and cut to the bytes of the type.  None of this shows in the result
(`ofLiteral_of_denotes`): the integer alone decides whether the literal is accepted, and on which
side of the range it is if it is not.

Reading stops at the digit that leaves the 128 bits.  The numbers on the way never get smaller, so
this happens exactly when the whole number does not fit (`ofText_of_denotes`), and such a number is
beyond the bounds of every type.
-/

namespace Patchbay

/-! ## What a text denotes -/

namespace Text

/-- The integer that an optional sign and one or more decimal digits denote. -/
inductive Denotes : List Char → ℤ → Prop
  | bare {digits : List Char} (nonempty : digits ≠ []) (all : Binary64.AreDigits digits) :
      Denotes digits (Nat.ofDigitChars 10 digits 0)
  | plus {digits : List Char} (nonempty : digits ≠ []) (all : Binary64.AreDigits digits) :
      Denotes ('+' :: digits) (Nat.ofDigitChars 10 digits 0)
  | minus {digits : List Char} (nonempty : digits ≠ []) (all : Binary64.AreDigits digits) :
      Denotes ('-' :: digits) (-(Nat.ofDigitChars 10 digits 0 : ℕ))

theorem denotes_iff_takeSign {text : List Char} {n : ℤ} :
    Denotes text n ↔ ∃ negative digits, takeSign text = (negative, digits) ∧ digits ≠ [] ∧
      Binary64.AreDigits digits ∧
        n = if negative then -(Nat.ofDigitChars 10 digits 0 : ℤ)
          else Nat.ofDigitChars 10 digits 0 := by
  constructor
  · intro h
    cases h with
    | bare nonempty all =>
        refine ⟨false, text, ?_, nonempty, all, rfl⟩
        obtain ⟨first, rest, rfl⟩ := List.exists_cons_of_ne_nil nonempty
        have hdigit := all first List.mem_cons_self
        refine Layout.takeSign_of_ne ?_ ?_ rest
        · rintro rfl
          exact absurd hdigit (by decide)
        · rintro rfl
          exact absurd hdigit (by decide)
    | @plus digits nonempty all => exact ⟨false, digits, rfl, nonempty, all, rfl⟩
    | @minus digits nonempty all => exact ⟨true, digits, rfl, nonempty, all, rfl⟩
  · rintro ⟨negative, digits, hsign, nonempty, all, rfl⟩
    unfold takeSign at hsign
    split at hsign
    · cases hsign
      exact .minus nonempty all
    · cases hsign
      exact .plus nonempty all
    · cases hsign
      exact .bare nonempty all

end Text

/-! ## Reading into 128 bits -/

namespace IntegerReading

open Binary64 (AreDigits)

/-- Digits whose number is too great are not read to their end. -/
theorem digits_of_lt {negative : Bool} {text : List Char} (htext : AreDigits text) {m : ℕ}
    (hstart : m ≤ magnitudeLimit negative)
    (hlimit : magnitudeLimit negative < Nat.ofDigitChars 10 text m) :
    digits negative m text = if negative then .underflow else .overflow := by
  induction text generalizing m with
  | nil => exact absurd hlimit (Nat.not_lt.2 hstart)
  | cons c rest ih =>
      have hdigit : Text.digit? c = some (c.toNat - '0'.toNat) := by
        rw [Text.digit?, if_pos (htext c List.mem_cons_self)]
      rw [Nat.ofDigitChars_cons] at hlimit
      rw [digits, hdigit]
      simp only
      by_cases hnext : 10 * m + (c.toNat - '0'.toNat) ≤ magnitudeLimit negative
      · rw [if_pos hnext]
        exact ih (fun d hd => htext d (List.mem_cons_of_mem c hd)) hnext hlimit
      · rw [if_neg hnext]

/-- What is read to its end is made of digits, and the number is theirs. -/
theorem of_digits_eq_number {negative : Bool} {text : List Char} {m : ℕ} {n : ℤ}
    (h : digits negative m text = .number n) :
    AreDigits text ∧
      n = if negative then -(Nat.ofDigitChars 10 text m : ℤ) else Nat.ofDigitChars 10 text m := by
  induction text generalizing m with
  | nil => exact ⟨List.forall_mem_nil _, (IntegerReading.number.inj h).symm⟩
  | cons c rest ih =>
      rw [digits] at h
      split at h
      · cases h
      · next d hdigit =>
          unfold Text.digit? at hdigit
          split at hdigit
          · next hc =>
              obtain rfl := Option.some.inj hdigit
              simp only at h
              split at h
              · obtain ⟨hrest, hn⟩ := ih h
                rw [Nat.ofDigitChars_cons]
                exact ⟨List.forall_mem_cons.2 ⟨hc, hrest⟩, hn⟩
              · split at h <;> cases h
          · cases hdigit

/-- What is found in a text that denotes `n`: the number if 128 bits hold it. -/
def ofInteger (n : ℤ) : IntegerReading :=
  if n < -2 ^ 127 then .underflow else if 2 ^ 127 ≤ n then .overflow else .number n

theorem ofText_of_denotes {text : List Char} {n : ℤ} (h : Text.Denotes text n) :
    ofText text = ofInteger n := by
  obtain ⟨negative, rest, hsign, hne, hdigits, rfl⟩ := Text.denotes_iff_takeSign.1 h
  have hread : ofText text = digits negative 0 rest := by
    unfold ofText
    rw [hsign]
    cases rest with
    | nil => exact absurd rfl hne
    | cons c rest => rfl
  have hpow : Nat.pow 2 127 = 2 ^ 127 := rfl
  rw [hread, ofInteger]
  -- the limit of the digits is one greater with a minus sign, as that of 128 bits is
  by_cases hfits : Nat.ofDigitChars 10 rest 0 ≤ magnitudeLimit negative
  · rw [digits_eq hdigits hfits]
    unfold magnitudeLimit at hfits
    cases negative with
    | true =>
        simp only [if_true] at hfits ⊢
        rw [if_neg (by omega), if_neg (by omega)]
    | false =>
        simp only [Bool.false_eq_true, if_false] at hfits ⊢
        rw [if_neg (by omega), if_neg (by omega)]
  · rw [digits_of_lt hdigits (Nat.zero_le _) (Nat.lt_of_not_le hfits)]
    unfold magnitudeLimit at hfits
    cases negative with
    | true =>
        simp only [if_true] at hfits ⊢
        rw [if_pos (by omega)]
    | false =>
        simp only [Bool.false_eq_true, if_false] at hfits ⊢
        rw [if_neg (by omega), if_pos (by omega)]

theorem denotes_of_ofText {text : List Char} {n : ℤ} (h : ofText text = .number n) :
    Text.Denotes text n := by
  rw [Text.denotes_iff_takeSign]
  unfold ofText at h
  split at h
  · cases h
  · next negative rest hne hsign =>
      obtain ⟨hdigits, hn⟩ := of_digits_eq_number h
      exact ⟨negative, rest, hsign, hne, hdigits, hn⟩

end IntegerReading

/-! ## Two's complement -/

theorem ofLittleEndian_append (front back : Bytes) :
    ofLittleEndian (front ++ back) =
      ofLittleEndian front + 256 ^ front.length * ofLittleEndian back := by
  induction front with
  | nil => simp [ofLittleEndian]
  | cons b front ih =>
      rw [List.cons_append, ofLittleEndian, ofLittleEndian, ih, List.length_cons]
      ring

theorem ofLittleEndian_replicate_zero (count : ℕ) :
    ofLittleEndian (List.replicate count 0) = 0 := by
  induction count with
  | zero => rfl
  | succ count ih => rw [List.replicate_succ, ofLittleEndian, ih]; rfl

theorem ofLittleEndian_replicate_ones (count : ℕ) :
    ofLittleEndian (List.replicate count 255) + 1 = 256 ^ count := by
  induction count with
  | zero => rfl
  | succ count ih =>
      have hbyte : (255 : UInt8).toNat = 255 := rfl
      rw [List.replicate_succ, ofLittleEndian, hbyte, pow_succ]
      omega

/-- The bytes of an integer in two's complement, least significant first: a negative integer is
written as what is left of it behind the greatest number of the width. -/
structure TwosComplement (width : ℕ) (n : ℤ) (bytes : Bytes) : Prop where
  length : bytes.length = width
  pattern : (ofLittleEndian bytes : ℤ) = if n < 0 then n + 256 ^ width else n

/-- The byte that is nothing but sign. -/
def signByte (n : ℤ) : UInt8 :=
  if n < 0 then 255 else 0

/-- More bytes only repeat the sign. -/
theorem TwosComplement.extend {width : ℕ} {n : ℤ} {bytes : Bytes}
    (h : TwosComplement width n bytes) (more : ℕ) :
    TwosComplement (width + more) n (bytes ++ List.replicate more (signByte n)) := by
  refine ⟨by rw [List.length_append, List.length_replicate, h.length], ?_⟩
  rw [ofLittleEndian_append, h.length, Nat.cast_add, h.pattern, signByte]
  split_ifs
  · have hones : (ofLittleEndian (List.replicate more 255) : ℤ) = 256 ^ more - 1 := by
      have hnext := ofLittleEndian_replicate_ones more
      rw [eq_sub_iff_add_eq]
      exact_mod_cast hnext
    rw [Nat.cast_mul, hones, pow_add]
    push_cast
    ring
  · rw [ofLittleEndian_replicate_zero, Nat.mul_zero, Nat.cast_zero, add_zero]

namespace IntegerType

section

variable (type : IntegerType)

theorem least_eq : type.least = if type.signed then -2 ^ (8 * type.width.bytes - 1) else 0 := by
  obtain ⟨signed, width⟩ := type
  cases signed <;> cases width <;> rfl

theorem greatest_eq :
    type.greatest = 2 ^ (8 * type.width.bytes - if type.signed then 1 else 0) - 1 := by
  obtain ⟨signed, width⟩ := type
  cases signed <;> cases width <;> rfl

/-- Every type holds zero and is narrower than 128 bits. -/
theorem bounds : (-2 ^ 127 ≤ type.least ∧ type.least ≤ 0) ∧
    (0 ≤ type.greatest ∧ type.greatest < 2 ^ 127) ∧ type.width.bytes ≤ 16 := by
  obtain ⟨signed, width⟩ := type
  cases signed <;> cases width <;> decide

end

theorem twosComplement_toValue {type : IntegerType} {n : ℤ} (hleast : type.least ≤ n)
    (hgreatest : n ≤ type.greatest) :
    TwosComplement type.width.bytes n ((type.toValue n).bytes type.width.bytes) := by
  obtain ⟨half, hhalf, hmodulus⟩ := type.exists_half
  have hpow : (type.modulus : ℤ) = 256 ^ type.width.bytes := by
    rw [modulus, Nat.pow_eq, Nat.cast_pow, Nat.cast_ofNat]
  have hlow : -(type.modulus : ℤ) ≤ n ∧ n < type.modulus := by
    unfold least at hleast
    unfold greatest at hgreatest
    split_ifs at hleast hgreatest <;> omega
  rw [bytes_toValue hleast hgreatest]
  refine ⟨length_littleEndian _ _, ?_⟩
  rw [ofLittleEndian_littleEndian, ← modulus, Nat.mod_eq_of_lt (type.pattern_lt n), ← hpow]
  split_ifs with hneg
  · exact type.pattern_of_neg hneg hlow.1
  · exact type.pattern_of_nonneg (Int.not_lt.1 hneg) hlow.2

/-! ## Literals -/

/-- How an integer out of range is shown: by its value if 128 bits hold it, and otherwise as it was
written. -/
def shown (text : List Char) (n : ℤ) : String :=
  if -2 ^ 127 ≤ n ∧ n < 2 ^ 127 then toString n else String.ofList text

theorem ofLiteral_of_denotes (type : IntegerType) {literal : List Char} {n : ℤ}
    (h : Text.Denotes (Text.trim literal) n) :
    type.ofLiteral literal =
      if n < type.least then .error (type.belowRange (shown (Text.trim literal) n))
      else if type.greatest < n then .error (type.aboveRange (shown (Text.trim literal) n))
      else .ok (type.toValue n) := by
  obtain ⟨⟨hlow, hlow'⟩, ⟨hhigh, hhigh'⟩, -⟩ := type.bounds
  rw [ofLiteral]
  simp only [IntegerReading.ofText_of_denotes h]
  unfold IntegerReading.ofInteger shown
  by_cases hunder : n < -2 ^ 127
  · have hbelow : n < type.least := by omega
    rw [if_pos hunder, if_pos hbelow, if_neg (by omega)]
  · by_cases hover : 2 ^ 127 ≤ n
    · have hnotBelow : ¬ n < type.least := by omega
      have habove : type.greatest < n := by omega
      rw [if_neg hunder, if_pos hover, if_neg hnotBelow, if_pos habove, if_neg (by omega)]
    · have hfits : -2 ^ 127 ≤ n ∧ n < 2 ^ 127 := by omega
      rw [if_neg hunder, if_neg hover, if_pos hfits]

theorem ofLiteral_of_not_denotes (type : IntegerType) {literal : List Char}
    (h : ∀ n, ¬ Text.Denotes (Text.trim literal) n) :
    ∃ cause, type.ofLiteral literal = .error cause := by
  simp only [ofLiteral]
  cases hread : IntegerReading.ofText (Text.trim literal) with
  | number n => exact absurd (IntegerReading.denotes_of_ofText hread) (h n)
  | overflow => exact ⟨_, rfl⟩
  | underflow => exact ⟨_, rfl⟩
  | malformed => exact ⟨_, rfl⟩

/-- The typed value `v` is the integer `n`, and nothing is lost when its sixteen bytes are cut to
those of the type: what is cut off is nothing but sign, and the integer is read back. -/
structure Encodes (type : IntegerType) (n : ℤ) (v : TaggedValue) : Prop where
  tag : v.tag = .integer type
  value : v.value = if type.signed then .signed n else .unsigned n.toNat
  bytes : TwosComplement type.width.bytes n v.bytes
  cut : ∃ whole, TwosComplement 16 n whole ∧ v.bytes = whole.take type.width.bytes ∧
    ∀ b ∈ whole.drop type.width.bytes, b = signByte n
  decoded : v.tag.decode? v.bytes = some v.value

theorem encodes_of_range {type : IntegerType} {n : ℤ} (hleast : type.least ≤ n)
    (hgreatest : n ≤ type.greatest) : type.Encodes n ⟨.integer type, type.toValue n⟩ := by
  have hbytes := twosComplement_toValue hleast hgreatest
  have hwidth : type.width.bytes + (16 - type.width.bytes) = 16 :=
    Nat.add_sub_cancel' type.bounds.2.2
  have hwhole := hbytes.extend (16 - type.width.bytes)
  rw [hwidth] at hwhole
  refine ⟨rfl, rfl, hbytes, ⟨_, hwhole, ?_, ?_⟩, ?_⟩
  · exact (List.take_left' hbytes.length).symm
  · intro b hb
    rw [List.drop_left' hbytes.length] at hb
    exact List.eq_of_mem_replicate hb
  · exact Tag.decode?_integer_iff.2 ⟨.integer hleast hgreatest, rfl⟩

/-- An integer literal is judged by its integer alone, whatever its length is: in the bounds of the
type it is encoded without loss, and outside it is rejected as too small or too large.  A literal of
any other form is rejected. -/
theorem encode_integer_literal (type : IntegerType) (literal : List Char) :
    (type.least = (if type.signed then -2 ^ (8 * type.width.bytes - 1) else 0) ∧
      type.greatest = 2 ^ (8 * type.width.bytes - if type.signed then 1 else 0) - 1) ∧
    (∀ n, Text.Denotes (Text.trim literal) n →
      (type.least ≤ n → n ≤ type.greatest →
        ∃ v, (Tag.integer type).encode literal = .ok v ∧ type.Encodes n v) ∧
      (n < type.least → (Tag.integer type).encode literal =
        .error (.belowRange (shown (Text.trim literal) n) (toString type.least))) ∧
      (type.greatest < n → (Tag.integer type).encode literal =
        .error (.aboveRange (shown (Text.trim literal) n) (toString type.greatest)))) ∧
    ((∀ n, ¬ Text.Denotes (Text.trim literal) n) →
      ∃ cause, (Tag.integer type).encode literal = .error cause) := by
  refine ⟨⟨type.least_eq, type.greatest_eq⟩, ?_, ?_⟩
  · intro n hn
    have hread := type.ofLiteral_of_denotes hn
    simp only [Tag.encode, Tag.valueOfLiteral, hread]
    refine ⟨?_, ?_, ?_⟩
    · intro hleast hgreatest
      rw [if_neg (Int.not_lt.2 hleast), if_neg (Int.not_lt.2 hgreatest)]
      exact ⟨_, rfl, encodes_of_range hleast hgreatest⟩
    · intro hbelow
      rw [if_pos hbelow]
      rfl
    · intro habove
      have hnotBelow : ¬ n < type.least := by
        have := type.bounds
        omega
      rw [if_neg hnotBelow, if_pos habove]
      rfl
  · intro hother
    obtain ⟨cause, hcause⟩ := type.ofLiteral_of_not_denotes hother
    exact ⟨cause, by rw [Tag.encode, Tag.valueOfLiteral, hcause]; rfl⟩

/-- The least integer of one byte behind zeros and between blanks, the first integer beyond two
bytes, one that 128 bits do not hold, and two signs. -/
theorem encode_integer_literal_at_bounds :
    (∃ v, (Tag.integer ⟨true, .one⟩).encode "\u3000-000128\t".toList = .ok v ∧
      Encodes ⟨true, .one⟩ (-128) v) ∧
    (Tag.integer ⟨true, .two⟩).encode "-32769".toList =
      .error (.belowRange "-32769" "-32768") ∧
    (Tag.integer ⟨false, .eight⟩).encode "+0999999999999999999999999999999999999999".toList =
      .error (.aboveRange "+0999999999999999999999999999999999999999" "18446744073709551615") ∧
    ∃ cause, (Tag.integer ⟨false, .one⟩).encode "+-5".toList = .error cause := by
  have hleast : Text.Denotes (Text.trim "\u3000-000128\t".toList) (-128) := by
    have htext : Text.trim "\u3000-000128\t".toList = '-' :: "000128".toList := by decide
    rw [htext]
    exact .minus (by decide) (List.all_eq_true.1 (by decide))
  have hbelow : Text.Denotes (Text.trim "-32769".toList) (-32769) := by
    have htext : Text.trim "-32769".toList = '-' :: "32769".toList := by decide
    rw [htext]
    exact .minus (by decide) (List.all_eq_true.1 (by decide))
  have hlong : Text.Denotes (Text.trim "+0999999999999999999999999999999999999999".toList)
      999999999999999999999999999999999999999 := by
    have htext : Text.trim "+0999999999999999999999999999999999999999".toList =
        '+' :: "0999999999999999999999999999999999999999".toList := by decide
    rw [htext]
    exact .plus (by decide) (List.all_eq_true.1 (by decide))
  have hsigns : ∀ n, ¬ Text.Denotes (Text.trim "+-5".toList) n := by
    intro n hn
    obtain ⟨negative, digits, hsign, -, hdigits, -⟩ := Text.denotes_iff_takeSign.1 hn
    cases hsign
    exact absurd (hdigits '-' (by decide)) (by decide)
  refine ⟨?_, ?_, ?_, ?_⟩
  · exact ((encode_integer_literal _ _).2.1 _ hleast).1 (by decide) (by decide)
  · exact ((encode_integer_literal _ _).2.1 _ hbelow).2.1 (by decide)
  · exact ((encode_integer_literal _ _).2.1 _ hlong).2.2 (by decide)
  · exact (encode_integer_literal _ _).2.2 hsigns

end IntegerType

end Patchbay
