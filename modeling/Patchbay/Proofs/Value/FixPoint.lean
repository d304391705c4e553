import Mathlib.Algebra.Order.Floor.Semifield
import Mathlib.Data.Rat.Floor
import Patchbay.Proofs.Number.Quantity
import Patchbay.Value.FixPoint

/-!
# Fix point numbers in double precision

A double precision number has a fix point number exactly when it is at most 511.9375 in magnitude
and its fraction is counted as a multiple of 625 ten-thousandths (`ofBinary64_eq_ok_iff`).  The two
unused bits of the result are never set (`bits_lt_of_ofBinary64`), and a fix point number without
them comes back from double precision as it was (`ofBinary64_toBinary64`), the negative zero apart,
which comes back as the positive one.
-/

namespace Patchbay

namespace Binary64

/-! ## Rounding to natural numbers -/

theorem floor_add_half (k : ℕ) : ⌊(k : ℚ) + 1 / 2⌋₊ = k := by
  rw [Nat.floor_eq_iff (by positivity)]
  constructor <;> linarith

theorem quantity_eq_div {v : Binary64} (h : ¬ 0 ≤ v.exponent) :
    v.quantity = v.significand / (Nat.pow 2 (-v.exponent).toNat : ℕ) := by
  rw [quantity, cast_pow_toNat_neg h, Nat.cast_ofNat, div_inv_eq_mul]

theorem roundedHalfUp_eq (v : Binary64) : v.roundedHalfUp = ⌊v.quantity + 1 / 2⌋₊ := by
  unfold roundedHalfUp
  split_ifs with hexponent
  · have hwhole : v.quantity = (v.significand * Nat.pow 2 v.exponent.toNat : ℕ) := by
      rw [quantity, Nat.cast_mul, cast_pow_toNat hexponent, Nat.cast_ofNat]
    rw [hwhole, floor_add_half]
  · rw [quantity_eq_div hexponent]
    generalize hunit : Nat.pow 2 (-v.exponent).toNat = unit
    have hpos : (0 : ℚ) < unit := by
      rw [← hunit]
      exact_mod_cast Nat.pow_pos (by norm_num)
    have hsum : (v.significand : ℚ) / unit + 1 / 2 =
        (2 * v.significand + unit : ℕ) / (2 * unit : ℕ) := by
      push_cast
      field_simp
    rw [hsum, Nat.floor_div_eq_div, roundHalfUp]

section

variable {n d k : ℕ} (hd : 0 < d) (hk : k < 2 ^ 53)
include hd hk

theorem roundedHalfUp_ofRatio_le (h : n ≤ k * d) (negative : Bool) :
    (ofRatio negative n d).roundedHalfUp ≤ k := by
  have hle := quantity_ofRatio_le hd hk h negative
  calc (ofRatio negative n d).roundedHalfUp
    _ = ⌊(ofRatio negative n d).quantity + 1 / 2⌋₊ := roundedHalfUp_eq _
    _ ≤ ⌊(k : ℚ) + 1 / 2⌋₊ := by gcongr
    _ = k := floor_add_half k

theorem roundedHalfUp_ofRatio_mul (negative : Bool) :
    (ofRatio negative (k * d) d).roundedHalfUp = k := by
  have hdq : (d : ℚ) ≠ 0 := by exact_mod_cast hd.ne'
  have hquotient : ((k * d : ℕ) : ℚ) / d = k := by
    rw [Nat.cast_mul, mul_div_cancel_right₀ _ hdq]
  have hdyadic : ((k * d : ℕ) : ℚ) / d = k / 2 ^ 0 := by rw [hquotient, pow_zero, div_one]
  rw [roundedHalfUp_eq, quantity_ofRatio_of_dyadic hd hk (by norm_num) hdyadic, hquotient,
    floor_add_half]

end

end Binary64

namespace FixPoint

/-! ## The range -/

theorem quantity_greatest : greatest.quantity = 8191 / 16 := by
  have hdyadic : ((8191 : ℕ) : ℚ) / (16 : ℕ) = (8191 : ℕ) / 2 ^ 4 := by norm_num
  rw [greatest,
    Binary64.quantity_ofRatio_of_dyadic (by norm_num) (by norm_num) (by norm_num) hdyadic]
  norm_num

/-- The range of fix point numbers, apart from signs. -/
def InRange (v : Binary64) : Prop :=
  v.quantity ≤ 8191 / 16

theorem inRange_iff {v : Binary64} : InRange v ↔ v.magnitude ≤ greatest.magnitude := by
  rw [InRange, Binary64.magnitude_le_iff, quantity_greatest]

/-- The numbers in range are those that pass neither limit. -/
theorem inRange_iff_lessThan {v : Binary64} :
    InRange v ↔ v.isNaN = false ∧ v.lessThan least = false ∧ greatest.lessThan v = false := by
  have hleast : least.isNaN = false ∧ least.orderKey = -(greatest.magnitude : ℤ) := by
    decide +kernel
  have hgreatest : greatest.isNaN = false ∧ greatest.orderKey = greatest.magnitude := by
    decide +kernel
  have hfinite : greatest.magnitude ≤ Binary64.infinityMagnitude := by decide +kernel
  rw [inRange_iff]
  unfold Binary64.lessThan
  rw [hleast.1, hleast.2, hgreatest.1, hgreatest.2]
  by_cases hnan : v.isNaN = true
  · have hlt : Binary64.infinityMagnitude < v.magnitude := by simpa [Binary64.isNaN] using hnan
    have hout : ¬ v.magnitude ≤ greatest.magnitude := by omega
    simp [hnan, hout]
  · rw [Bool.not_eq_true] at hnan
    have hkey : v.orderKey = v.magnitude ∨ v.orderKey = -(v.magnitude : ℤ) := by
      unfold Binary64.orderKey
      split_ifs
      · exact .inr rfl
      · exact .inl rfl
    simp only [hnan, Bool.not_false, Bool.true_and, true_and, decide_eq_false_iff_not]
    omega

/-- When a double precision number has a fix point number, and which. -/
theorem ofBinary64_eq_ok_iff {v : Binary64} {p : FixPoint} :
    ofBinary64 v = .ok p ↔ InRange v ∧ tenThousandths v % 625 = 0 ∧
      p = ⟨UInt16.ofNat (pack v (tenThousandths v / 625))⟩ := by
  rw [inRange_iff_lessThan]
  unfold ofBinary64
  simp only
  split_ifs with hnan hleast hgreatest hgrid
  · simp [hnan]
  · simp [hleast]
  · simp [hgreatest]
  · rw [beq_iff_eq] at hgrid
    simp [hnan, hleast, hgreatest, hgrid, eq_comm]
  · rw [beq_iff_eq] at hgrid
    simp [hgrid]

/-! ## The parts of a number in range -/

/-- The number of parts that the unit is divided into. -/
def unit (v : Binary64) : ℕ :=
  Nat.pow 2 (-v.exponent).toNat

theorem unit_pos (v : Binary64) : 0 < unit v :=
  Nat.pow_pos (by norm_num)

section

variable {v : Binary64} (h : InRange v)
include h

theorem quantity_of_inRange : v.quantity = v.significand / unit v := by
  refine Binary64.quantity_eq_div ?_
  -- a number whose last place is a whole one has at least fifty-three whole places
  intro hexponent
  have hdigits : (2 : ℚ) ^ 52 ≤ v.significand := by exact_mod_cast v.significand_ge (by omega)
  have hplace : (1 : ℚ) ≤ 2 ^ v.exponent := one_le_zpow₀ (by norm_num) hexponent
  have hgreat : (2 : ℚ) ^ 52 * 1 ≤ v.quantity := by
    unfold Binary64.quantity
    gcongr
  have hless : v.quantity < 2 ^ 52 * 1 := by
    refine lt_of_le_of_lt h ?_
    norm_num
  exact absurd hgreat (not_le.2 hless)

theorem significand_le_of_inRange : 16 * v.significand ≤ 8191 * unit v := by
  have hunit : (0 : ℚ) < unit v := by exact_mod_cast unit_pos v
  have hle : v.quantity ≤ 8191 / 16 := h
  rw [quantity_of_inRange h, div_le_div_iff₀ hunit (by norm_num), mul_comm] at hle
  exact_mod_cast hle

end

/-- The count of ten-thousandths is at most what the fraction is at most. -/
theorem tenThousandths_le {v : Binary64} {k : ℕ} (hk : k < 2 ^ 53)
    (h : v.significand % unit v * 10000 ≤ k * unit v) : tenThousandths v ≤ k :=
  Binary64.roundedHalfUp_ofRatio_le (unit_pos v) hk h false

/-- Whole part and fraction stay below 512 together, also if the fraction carries. -/
theorem magnitude_lt {v : Binary64} (h : InRange v) :
    v.significand / unit v * 16 + tenThousandths v / 625 < 2 ^ 13 := by
  have hle := significand_le_of_inRange h
  have hsplit := Nat.div_add_mod v.significand (unit v)
  have hrest : v.significand % unit v < unit v := Nat.mod_lt _ (unit_pos v)
  by_cases htop : v.significand / unit v < 511
  · have hcount : tenThousandths v ≤ 10000 := tenThousandths_le (by norm_num) (by omega)
    omega
  · -- with the greatest whole part the fraction is at most fifteen sixteenths
    have hwhole : v.significand / unit v = 511 := by
      have hlt : v.significand / unit v < 512 := by
        rw [Nat.div_lt_iff_lt_mul (unit_pos v)]
        have := unit_pos v
        omega
      omega
    rw [hwhole] at hsplit
    have hcount : tenThousandths v ≤ 9375 := tenThousandths_le (by norm_num) (by omega)
    omega

/-- A fix point number that is taken over has no unused bit set. -/
theorem bits_lt_of_ofBinary64 {v : Binary64} {p : FixPoint} (h : ofBinary64 v = .ok p) :
    p.bits.toNat < 2 ^ 14 := by
  obtain ⟨hrange, -, rfl⟩ := ofBinary64_eq_ok_iff.1 h
  have hlt := magnitude_lt hrange
  have hpack : pack v (tenThousandths v / 625) < 2 ^ 14 := by
    have hsign : signPlace = 2 ^ 13 := rfl
    unfold pack
    rw [← unit]
    simp only
    split_ifs <;> omega
  rw [UInt16.toNat_ofNat']
  exact lt_of_le_of_lt (Nat.mod_le _ _) hpack

/-! ## Back from double precision -/

section

variable {n : ℕ} (hpos : 0 < n) (hn : n < 2 ^ 13) (negative : Bool)
include hpos hn

theorem quantity_ofRatio_sixteen : (Binary64.ofRatio negative n 16).quantity = n / 16 := by
  have hdyadic : (n : ℚ) / (16 : ℕ) = n / 2 ^ 4 := by norm_num
  rw [Binary64.quantity_ofRatio_of_dyadic (by norm_num) (by omega) (by norm_num) hdyadic,
    Nat.cast_ofNat]

theorem inRange_ofRatio_sixteen : InRange (Binary64.ofRatio negative n 16) := by
  have hle : (n : ℚ) ≤ 8191 := by exact_mod_cast Nat.le_of_lt_succ hn
  rw [InRange, quantity_ofRatio_sixteen hpos hn]
  linarith

/-- The number of sixteenths divides into the parts of the number. -/
theorem parts_ofRatio_sixteen {v : Binary64} (hv : v = Binary64.ofRatio negative n 16) :
    v.significand / unit v = n / 16 ∧ 16 * (v.significand % unit v) = n % 16 * unit v := by
  have hunit : (unit v : ℚ) ≠ 0 := by exact_mod_cast (unit_pos v).ne'
  have hquantity := quantity_ofRatio_sixteen hpos hn negative
  rw [← hv, quantity_of_inRange (hv ▸ inRange_ofRatio_sixteen hpos hn negative),
    div_eq_div_iff hunit (by norm_num)] at hquantity
  have hproduct : 16 * v.significand = n * unit v := by
    rw [mul_comm] at hquantity
    exact_mod_cast hquantity
  constructor
  · rw [← Nat.mul_div_mul_left _ _ (show 0 < 16 by norm_num), hproduct,
      Nat.mul_div_mul_right _ _ (unit_pos v)]
  · rw [← Nat.mul_mod_mul_left, hproduct, Nat.mul_mod_mul_right]

theorem tenThousandths_ofRatio_sixteen :
    tenThousandths (Binary64.ofRatio negative n 16) = 625 * (n % 16) := by
  generalize hv : Binary64.ofRatio negative n 16 = v
  obtain ⟨-, hrest⟩ := parts_ofRatio_sixteen hpos hn negative hv.symm
  have hcount : v.significand % unit v * 10000 = 625 * (n % 16) * unit v := by
    rw [Nat.mul_assoc, ← hrest]
    ring
  calc tenThousandths v
    _ = (Binary64.ofRatio false (625 * (n % 16) * unit v) (unit v)).roundedHalfUp := by
      rw [← hcount]
      rfl
    _ = 625 * (n % 16) := Binary64.roundedHalfUp_ofRatio_mul (unit_pos v) (by omega) false

theorem lessThan_zero_ofRatio_sixteen :
    (Binary64.ofRatio negative n 16).lessThan (Binary64.zero false) = negative := by
  obtain ⟨hnegative, hnan⟩ := Binary64.negative_ofRatio negative n 16
  have hquantity := quantity_ofRatio_sixteen hpos hn negative
  generalize Binary64.ofRatio negative n 16 = v at *
  have hmagnitude : 0 < v.magnitude := by
    refine Nat.pos_of_ne_zero fun hzero => ?_
    have hdigits : v.significand = 0 := Nat.eq_zero_of_add_eq_zero_left (v.magnitude_eq ▸ hzero)
    rw [Binary64.quantity, hdigits, Nat.cast_zero, zero_mul] at hquantity
    have hnq : (0 : ℚ) < n := by exact_mod_cast hpos
    linarith
  have hzero : (Binary64.zero false).isNaN = false ∧ (Binary64.zero false).orderKey = 0 := by decide
  unfold Binary64.lessThan
  rw [hnan, hzero.1, hzero.2]
  unfold Binary64.orderKey
  rw [hnegative]
  cases negative
  · simp
  · simpa using hmagnitude

end

/-- The bits of a fix point number without unused bits. -/
theorem bits_eq {p : FixPoint} (hp : p.bits.toNat < 2 ^ 14) :
    p.bits.toNat = p.whole * 16 + p.sixteenths + if p.negative then signPlace else 0 := by
  have hsign : signPlace = 2 ^ 13 := rfl
  unfold whole sixteenths negative
  simp only [beq_iff_eq, hsign]
  split_ifs <;> omega

/-- A fix point number without unused bits comes back from double precision, but for the negative
zero. -/
theorem ofBinary64_toBinary64 {p : FixPoint} (hp : p.bits.toNat < 2 ^ 14)
    (hzero : p.bits ≠ 0x2000) : ofBinary64 p.toBinary64 = .ok p := by
  have hbits := bits_eq hp
  have hlt : p.whole * 16 + p.sixteenths < 2 ^ 13 := by
    unfold whole sixteenths
    omega
  unfold toBinary64
  generalize p.whole * 16 + p.sixteenths = n at hbits hlt
  generalize p.negative = negative at hbits
  rcases Nat.eq_zero_or_pos n with rfl | hpos
  · cases negative with
    | true => exact absurd (UInt16.toNat.inj hbits) hzero
    | false =>
        have hp' : p = ⟨0⟩ := congrArg FixPoint.mk (UInt16.toNat.inj hbits)
        rw [hp']
        decide +kernel
  · have hcount := tenThousandths_ofRatio_sixteen hpos hlt negative
    have hdivide : 625 * (n % 16) / 625 = n % 16 := Nat.mul_div_cancel_left _ (by norm_num)
    rw [ofBinary64_eq_ok_iff, hcount, hdivide]
    refine ⟨inRange_ofRatio_sixteen hpos hlt negative, Nat.mul_mod_right _ _, ?_⟩
    have hpack : pack (Binary64.ofRatio negative n 16) (n % 16) = p.bits.toNat := by
      unfold pack
      simp only [lessThan_zero_ofRatio_sixteen hpos hlt negative]
      rw [← unit, (parts_ofRatio_sixteen hpos hlt negative rfl).1, Nat.div_add_mod', hbits]
    rw [hpack, UInt16.ofNat_toNat]

theorem ofBinary64_toBinary64_negativeZero : ofBinary64 (toBinary64 ⟨0x2000⟩) = .ok ⟨0⟩ := by
  decide +kernel

end FixPoint

end Patchbay
