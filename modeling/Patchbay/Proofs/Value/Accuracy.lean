import Patchbay.Proofs.Number.Arithmetic
import Patchbay.Proofs.Value.FixPoint

/-!
# How near a fix point number is

A fraction is counted in ten-thousandths in double precision, where it is rounded twice: the
product with ten thousand is rounded to a number, and this number to a whole one.  The second
rounding is off by at most one half and the first by much less, so both together are off by less
than one (`abs_tenThousandths_sub_le`).  The packed number inherits this (`packs_of_ofBinary64`): a
count of 625 is one sixteenth, also when a fraction is rounded up to sixteen of them, and whole part
and sixteenths together stay below the sign bit.

`ofBinary64_accurate` says it of every number, together with the numbers that have no fix point
number and the multiples of 1/16, which are packed without loss.
-/

namespace Patchbay.FixPoint

/-! ## Whole part and fraction -/

/-- The fraction of a number in range, exactly. -/
def fraction (v : Binary64) : ℚ :=
  ((v.significand % unit v : ℕ) : ℚ) / unit v

theorem fraction_mul (v : Binary64) (k : ℕ) :
    fraction v * k = (v.significand % unit v * k : ℕ) / unit v := by
  rw [fraction, Nat.cast_mul]
  ring

theorem quantity_eq_whole_add_fraction {v : Binary64} (h : InRange v) :
    v.quantity = (v.significand / unit v : ℕ) + fraction v := by
  have hunit : (unit v : ℚ) ≠ 0 := by exact_mod_cast (unit_pos v).ne'
  have hsplit : (v.significand : ℚ) =
      unit v * (v.significand / unit v : ℕ) + (v.significand % unit v : ℕ) := by
    exact_mod_cast (Nat.div_add_mod v.significand (unit v)).symm
  calc v.quantity = v.significand / unit v := quantity_of_inRange h
    _ = (unit v * (v.significand / unit v : ℕ) + (v.significand % unit v : ℕ)) / unit v := by
      rw [← hsplit]
    _ = (v.significand / unit v : ℕ) + fraction v := by
      rw [add_div, mul_div_cancel_left₀ _ hunit, fraction]

/-! ## Counting in steps -/

/-- The fraction in ten-thousandths, with every operation done in double precision: the whole part
is taken off the magnitude, and what is left is multiplied and rounded to a whole number. -/
def countInSteps (v : Binary64) : ℕ :=
  let magnitude := Binary64.ofMagnitude false v.magnitude
  let rest := magnitude.minus magnitude.truncated
  (rest.times (Binary64.ofRatio false 10000 1)).roundedHalfUp

theorem value_magnitude (v : Binary64) :
    (Binary64.ofMagnitude false v.magnitude).value = v.quantity := by
  have hsign : (Binary64.ofMagnitude false v.magnitude).negative = false :=
    (Binary64.magnitude_ofMagnitude (Nat.mod_lt _ (by decide))).2
  rw [Binary64.value, hsign]
  exact Binary64.quantity_ofMagnitude_magnitude false v

theorem value_tenThousand : (Binary64.ofRatio false 10000 1).value = (10000 : ℕ) := by
  have hdyadic : ((10000 : ℕ) : ℚ) / (1 : ℕ) = (10000 : ℕ) / 2 ^ 0 := by norm_num
  rw [Binary64.value_ofRatio_false,
    Binary64.quantity_ofRatio_of_dyadic (by norm_num) (by norm_num) (by norm_num) hdyadic,
    Nat.cast_one, div_one]

section

variable {v : Binary64} (h : InRange v)
include h

/-- The whole part has no more digits than the number itself, so it is found exactly. -/
theorem value_truncated :
    (Binary64.ofMagnitude false v.magnitude).truncated.value = (v.significand / unit v : ℕ) := by
  have hdigits : v.significand / unit v < 2 ^ 53 :=
    lt_of_le_of_lt (Nat.div_le_self _ _) v.significand_lt
  rw [Binary64.truncated, value_magnitude, quantity_of_inRange h, Nat.floor_div_eq_div]
  exact Binary64.value_ofRational_of_dyadic hdigits (Nat.zero_le _) (by rw [pow_zero, div_one])

/-- Neither has what is left of it, so the difference is exact too. -/
theorem value_minus_truncated :
    ((Binary64.ofMagnitude false v.magnitude).minus
      (Binary64.ofMagnitude false v.magnitude).truncated).value = fraction v := by
  have hdigits : v.significand % unit v < 2 ^ 53 :=
    lt_of_le_of_lt (Nat.mod_le _ _) v.significand_lt
  have hplaces : (-v.exponent).toNat ≤ 1074 := by
    have := v.exponent_ge
    omega
  rw [Binary64.minus, value_magnitude, value_truncated h, quantity_eq_whole_add_fraction h,
    add_sub_cancel_left]
  refine Binary64.value_ofRational_of_dyadic hdigits hplaces ?_
  rw [fraction, unit, Nat.pow_eq, Nat.cast_pow, Nat.cast_ofNat]

/-- Only the product is rounded before it is made whole. -/
theorem countInSteps_eq : countInSteps v = tenThousandths v := by
  unfold countInSteps
  simp only
  rw [Binary64.times, value_minus_truncated h, value_tenThousand, fraction_mul,
    Binary64.ofRational_div _ (unit_pos v)]
  rfl

end

/-! ## The error of the count -/

theorem abs_roundedHalfUp_sub_le (v : Binary64) : |(v.roundedHalfUp : ℚ) - v.quantity| ≤ 1 / 2 := by
  have hnonneg : 0 ≤ v.quantity + 1 / 2 := by linarith [v.quantity_nonneg]
  have hlow := Nat.floor_le hnonneg
  have hhigh := Nat.lt_floor_add_one (v.quantity + 1 / 2)
  rw [Binary64.roundedHalfUp_eq, abs_le]
  constructor <;> linarith

/-- Numbers of ten-thousandths are below `2 ^ 14`, so their last place is at most `2 ^ (-39)`. -/
theorem abs_tenThousandths_sub_le (v : Binary64) :
    |(tenThousandths v : ℚ) - fraction v * 10000| ≤ 1 / 2 + 2 ^ (-40 : ℤ) := by
  have hproduct := fraction_mul v 10000
  have hsmall : ((v.significand % unit v * 10000 : ℕ) : ℚ) / unit v < 2 ^ (14 : ℤ) := by
    have hunit : (0 : ℚ) < unit v := by exact_mod_cast unit_pos v
    have hrest : v.significand % unit v < unit v := Nat.mod_lt _ (unit_pos v)
    have hlt : v.significand % unit v * 10000 < 2 ^ 14 * unit v := by omega
    rw [div_lt_iff₀ hunit]
    exact_mod_cast hlt
  have hnear := Binary64.abs_quantity_ofRatio_sub_le (unit_pos v) (by norm_num) (by norm_num)
    hsmall false
  rw [Nat.cast_ofNat] at hproduct
  rw [← hproduct] at hnear
  generalize hrounded :
    Binary64.ofRatio false (v.significand % unit v * 10000) (unit v) = rounded at hnear
  have hcount : tenThousandths v = rounded.roundedHalfUp := by
    rw [← hrounded]
    rfl
  calc |(tenThousandths v : ℚ) - fraction v * 10000|
    _ ≤ |(tenThousandths v : ℚ) - rounded.quantity| + |rounded.quantity - fraction v * 10000| :=
      abs_sub_le _ _ _
    _ ≤ 1 / 2 + 2 ^ ((14 : ℤ) - 54) := by
      rw [hcount]
      exact add_le_add (abs_roundedHalfUp_sub_le rounded) hnear
    _ = 1 / 2 + 2 ^ (-40 : ℤ) := by norm_num

/-! ## Packed numbers -/

/-- The packed number `p` stands for `v`: the two unused bits are clear, the sign bit is the sign of
`v`, and the magnitude below it is nearer to that of `v` than one ten-thousandth. -/
structure Packs (v : Binary64) (p : FixPoint) : Prop where
  unused : p.bits.toNat < 2 ^ 14
  sign : p.bits.toNat.testBit 13 = true ↔ v.value < 0
  near : |((p.bits.toNat % 2 ^ 13 : ℕ) : ℚ) / 16 - abs v.value| < 1 / 10000

theorem toNat_bits_of_ofBinary64 {v : Binary64} {p : FixPoint} (h : ofBinary64 v = .ok p) :
    p.bits.toNat = v.significand / unit v * 16 + tenThousandths v / 625 +
      if v.lessThan (Binary64.zero false) then 2 ^ 13 else 0 := by
  obtain ⟨hrange, -, rfl⟩ := ofBinary64_eq_ok_iff.1 h
  have hlt := magnitude_lt hrange
  rw [UInt16.toNat_ofNat', Nat.mod_eq_of_lt]
  · rfl
  · change v.significand / unit v * 16 + tenThousandths v / 625 +
      (if v.lessThan (Binary64.zero false) then 2 ^ 13 else 0) < 2 ^ 16
    split_ifs <;> omega

theorem packs_of_ofBinary64 {v : Binary64} {p : FixPoint} (h : ofBinary64 v = .ok p) :
    Packs v p := by
  obtain ⟨hrange, hgrid, -⟩ := ofBinary64_eq_ok_iff.1 h
  have hbits := toNat_bits_of_ofBinary64 h
  have hlt := magnitude_lt hrange
  have hsign := Binary64.lessThan_zero_iff (inRange_iff_lessThan.1 hrange).1
  generalize hm : v.significand / unit v * 16 + tenThousandths v / 625 = m at hbits hlt
  have hlow : p.bits.toNat % 2 ^ 13 = m := by
    rw [hbits]
    split_ifs <;> omega
  refine ⟨bits_lt_of_ofBinary64 h, ?_, ?_⟩
  · rw [← hsign, Nat.testBit_eq_decide_div_mod_eq, decide_eq_true_eq, hbits]
    by_cases hless : v.lessThan (Binary64.zero false) = true
    · rw [if_pos hless, iff_true_right hless]
      omega
    · rw [if_neg hless, iff_false_right hless]
      omega
  · have hcount : (tenThousandths v : ℚ) = 625 * (tenThousandths v / 625 : ℕ) := by
      exact_mod_cast (Nat.mul_div_cancel' (Nat.dvd_of_mod_eq_zero hgrid)).symm
    -- a sixteenth is 625 ten-thousandths, so the error of the magnitude is that of the count
    have hdifference : (m : ℚ) / 16 - v.quantity =
        (tenThousandths v - fraction v * 10000) / 10000 := by
      rw [quantity_eq_whole_add_fraction hrange, hcount, ← hm]
      push_cast
      ring
    have hsmall : (2 : ℚ) ^ (-40 : ℤ) < 1 / 2 := by norm_num
    rw [hlow, Binary64.abs_value, hdifference, abs_div, abs_of_pos (by norm_num : (0 : ℚ) < 10000),
      div_lt_div_iff_of_pos_right (by norm_num)]
    linarith [abs_tenThousandths_sub_le v]

/-! ## Multiples of 1/16 -/

/-- The packed number of a sign and a number of sixteenths. -/
def ofSixteenths (negative : Bool) (n : ℕ) : FixPoint :=
  ⟨UInt16.ofNat (n + if negative then 2 ^ 13 else 0)⟩

section

variable {n : ℕ} (hn : n < 2 ^ 13) (negative : Bool)
include hn

theorem toNat_bits_ofSixteenths :
    (ofSixteenths negative n).bits.toNat = n + if negative then 2 ^ 13 else 0 := by
  rw [ofSixteenths, UInt16.toNat_ofNat', Nat.mod_eq_of_lt]
  split_ifs <;> omega

theorem toBinary64_ofSixteenths :
    (ofSixteenths negative n).toBinary64 = Binary64.ofRatio negative n 16 := by
  have hplace : signPlace = 2 ^ 13 := rfl
  unfold toBinary64 FixPoint.negative whole sixteenths
  rw [toNat_bits_ofSixteenths hn negative, hplace]
  congr 1
  · cases negative <;> simp <;> omega
  · split_ifs <;> omega

/-- Sixteenths are packed and come back, but for the sign of a zero. -/
theorem ofBinary64_ofRatio_sixteen (hpos : 0 < n) :
    ofBinary64 (Binary64.ofRatio negative n 16) = .ok (ofSixteenths negative n) := by
  have hbits := toNat_bits_ofSixteenths hn negative
  rw [← toBinary64_ofSixteenths hn negative]
  refine ofBinary64_toBinary64 ?_ ?_
  · rw [hbits]
    split_ifs <;> omega
  · intro hzero
    rw [hzero] at hbits
    change 2 ^ 13 = _ at hbits
    split_ifs at hbits <;> omega

end

theorem exists_of_sixteenths {v : Binary64} (hfinite : v.IsFinite) {n : ℕ} (hn : n < 2 ^ 13)
    (h : v.quantity = n / 16) :
    ∃ p, ofBinary64 v = .ok p ∧ p.toBinary64.IsFinite ∧ p.toBinary64.value = v.value := by
  rcases Nat.eq_zero_or_pos n with rfl | hpos
  · -- both zeros are packed as the one without a sign
    rw [Nat.cast_zero, zero_div] at h
    have hvalue : v.value = 0 := by rw [← abs_eq_zero, Binary64.abs_value, h]
    have hv : v = Binary64.ofMagnitude v.negative 0 := by
      rw [← Binary64.quantity_eq_zero_iff.1 h, Binary64.ofMagnitude_magnitude]
    have hback := toBinary64_ofSixteenths hn false
    refine ⟨ofSixteenths false 0, ?_, ?_, ?_⟩
    · rw [hv]
      cases v.negative <;> decide +kernel
    · unfold Binary64.IsFinite
      decide
    · rw [hback, Binary64.value_ofRatio_false, Binary64.quantity_ofRatio_zero, hvalue]
  · have hv : Binary64.ofRatio v.negative n 16 = v := by
      refine Binary64.ofRatio_of_covers hfinite hpos (by norm_num) ?_
      rw [Nat.cast_ofNat, ← h]
      exact v.covers_quantity
    have hpack := ofBinary64_ofRatio_sixteen hn v.negative hpos
    have hback := toBinary64_ofSixteenths hn v.negative
    rw [hv] at hpack hback
    exact ⟨ofSixteenths v.negative n, hpack, by rwa [hback], by rw [hback]⟩

/-! ## Every number -/

/-- How a number beyond the range is rejected. -/
def beyondRange (v : Binary64) : Rejection :=
  if v.negative then .belowRange (Layout.value.text v) "-511.9375"
  else .aboveRange (Layout.value.text v) "511.9375"

theorem ofBinary64_of_not_inRange {v : Binary64} (hnan : v.isNaN = false) (h : ¬ InRange v) :
    ofBinary64 v = .error (beyondRange v) := by
  have hleast : least.isNaN = false ∧ least.orderKey = -(greatest.magnitude : ℤ) ∧
      Layout.value.text least = "-511.9375" := by
    decide +kernel
  have hgreatest : greatest.isNaN = false ∧ greatest.orderKey = greatest.magnitude ∧
      Layout.value.text greatest = "511.9375" := by
    decide +kernel
  rw [inRange_iff, Nat.not_le] at h
  -- its magnitude decides that it is beyond a limit, and its sign decides which
  have hbelow : v.lessThan least = v.negative := by
    rw [Binary64.lessThan, hnan, hleast.1, hleast.2.1, Binary64.orderKey]
    cases v.negative with
    | true => simpa using h
    | false =>
        simp only [Bool.false_eq_true, if_false, Bool.not_false, Bool.true_and,
          decide_eq_false_iff_not]
        omega
  have habove : greatest.lessThan v = !v.negative := by
    rw [Binary64.lessThan, hnan, hgreatest.1, hgreatest.2.1, Binary64.orderKey]
    cases v.negative with
    | true =>
        simp only [if_true, Bool.not_false, Bool.true_and, Bool.not_true, decide_eq_false_iff_not]
        omega
    | false => simpa using h
  simp only [ofBinary64, beyondRange, hnan, hbelow, habove, hleast.2.2, hgreatest.2.2]
  cases v.negative <;> rfl

/-- A fix point number is as near to a double precision number as its steps allow.  What is not a
number, infinite or beyond 511.9375 is rejected.  A number in range is packed if its fraction is
counted as a multiple of 625 ten-thousandths in double precision; the packed number then has the
sign of the number and differs from it by less than one ten-thousandth, and is the number itself if
that is a multiple of 1/16. -/
theorem ofBinary64_accurate (v : Binary64) :
    (v.isNaN = true → ofBinary64 v = .error (.notANumber (Layout.value.text v))) ∧
      (v.isInfinite = true ∨ v.isNaN = false ∧ 8191 / 16 < |v.value| →
        ofBinary64 v = .error (beyondRange v)) ∧
      (v.IsFinite → |v.value| ≤ 8191 / 16 →
        ((∃ p, ofBinary64 v = .ok p) ↔ 625 ∣ countInSteps v) ∧
          ∀ k : ℤ, v.value = k / 16 →
            ∃ p, ofBinary64 v = .ok p ∧ p.toBinary64.IsFinite ∧ p.toBinary64.value = v.value) ∧
      ∀ p, ofBinary64 v = .ok p → Packs v p := by
  refine ⟨?_, ?_, ?_, fun p => packs_of_ofBinary64⟩
  · intro hnan
    simp only [ofBinary64, hnan, if_true]
  · intro h
    have hgreatest : greatest.magnitude < Binary64.infinityMagnitude := by decide +kernel
    rcases h with hinfinite | ⟨hnan, hbeyond⟩
    · -- the order of the patterns puts infinity above all finite numbers
      rw [Binary64.isInfinite, beq_iff_eq] at hinfinite
      refine ofBinary64_of_not_inRange ?_ ?_
      · rw [Binary64.isNaN, hinfinite, decide_eq_false (lt_irrefl _)]
      · rw [inRange_iff]
        omega
    · refine ofBinary64_of_not_inRange hnan ?_
      rw [Binary64.abs_value] at hbeyond
      exact not_le.2 hbeyond
  · intro hfinite hle
    have hrange : InRange v := by rwa [InRange, ← Binary64.abs_value]
    refine ⟨?_, ?_⟩
    · rw [countInSteps_eq hrange, Nat.dvd_iff_mod_eq_zero]
      constructor
      · rintro ⟨p, hp⟩
        exact (ofBinary64_eq_ok_iff.1 hp).2.1
      · intro hgrid
        exact ⟨_, ofBinary64_eq_ok_iff.2 ⟨hrange, hgrid, rfl⟩⟩
    · intro k hk
      have hquantity : v.quantity = (k.natAbs : ℕ) / 16 := by
        rw [← Binary64.abs_value, hk, abs_div, Nat.cast_natAbs, Int.cast_abs]
        norm_num
      -- so few sixteenths are counted without an error
      have hsmall : k.natAbs < 2 ^ 13 := by
        rw [Binary64.abs_value, hquantity, div_le_div_iff_of_pos_right (by norm_num)] at hle
        have hle' : k.natAbs ≤ 8191 := by exact_mod_cast hle
        omega
      exact exists_of_sixteenths hfinite hsmall hquantity

/-- The fraction of -255.99999 is rounded up to a whole unit, which the whole part takes over. -/
theorem ofBinary64_accurate_carry :
    Packs ⟨0xC06FFFFFEB074A77⟩ ⟨0x3000⟩ ∧
      ofBinary64 (Binary64.nan true) = .error (.notANumber "NaN") ∧
      ofBinary64 (Binary64.infinity true) = .error (.belowRange "-inf" "-511.9375") ∧
      ∃ p, ofBinary64 (Binary64.ofRatio true 204 16) = .ok p ∧ p.toBinary64.IsFinite ∧
        p.toBinary64.value = (Binary64.ofRatio true 204 16).value := by
  have hvalue : (Binary64.ofRatio true 204 16).value = (-204 : ℤ) / 16 := by
    rw [Binary64.value, (Binary64.negative_ofRatio true 204 16).1, if_pos rfl,
      quantity_ofRatio_sixteen (by norm_num) (by norm_num)]
    norm_num
  have hfinite : (Binary64.ofRatio true 204 16).IsFinite := by
    unfold Binary64.IsFinite
    decide +kernel
  have hrange : |(Binary64.ofRatio true 204 16).value| ≤ 8191 / 16 := by
    rw [hvalue, abs_le]
    norm_num
  refine ⟨?_, ?_, ?_, ?_⟩
  · exact (ofBinary64_accurate _).2.2.2 _ (by decide +kernel)
  · exact (ofBinary64_accurate _).1 (by decide)
  · exact (ofBinary64_accurate _).2.1 (.inl (by decide))
  · exact ((ofBinary64_accurate _).2.2.1 hfinite hrange).2 (-204) hvalue

end Patchbay.FixPoint
