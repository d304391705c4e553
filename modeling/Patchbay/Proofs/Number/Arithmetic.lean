import Mathlib.Algebra.Order.Floor.Semifield
import Mathlib.Data.Rat.Floor
import Patchbay.Proofs.Number.Quantity
import Patchbay.Proofs.Number.Shortest

/-!
# Arithmetic in double precision

A finite pattern stands for a rational number, its `value`.  An operation in double precision gives
the number nearest to the exact result, a tie going to the even pattern: it is the exact operation
on the values, then `ofRational`.

Two facts make such results known.  The result is the exact one if that has few binary digits
(`value_ofRational_of_dyadic`), and in general it differs from the exact one by at most half a unit
of its last place (`abs_quantity_ofRatio_sub_le`).  Both need that rounding depends on the quotient
and not on the two numbers that it is given by (`ofRatio_congr`).
-/

namespace Patchbay

/-! ## Rounding a quotient -/

theorem roundsTo_roundHalfEven (a : ℕ) {b : ℕ} (hb : 0 < b) :
    RoundsTo ((a : ℚ) / b) (roundHalfEven a b) := by
  have hbq : (0 : ℚ) < b := by exact_mod_cast hb
  have hdivision := Nat.div_add_mod a b
  have hremainder := Nat.mod_lt a hb
  unfold roundHalfEven
  simp only
  generalize a / b = q at hdivision ⊢
  generalize a % b = r at hdivision hremainder ⊢
  have ha : (a : ℚ) = b * q + r := by exact_mod_cast hdivision.symm
  have hquotient : (a : ℚ) / b = q + r / b := by
    rw [ha, add_div, mul_div_cancel_left₀ _ hbq.ne']
  have hpart : 0 ≤ (r : ℚ) / b := by positivity
  have hless : (r : ℚ) / b < 1 := by
    rw [div_lt_one hbq]
    exact_mod_cast hremainder
  rw [hquotient]
  -- `2 * r` against `b` says on which side of one half the fraction `r / b` is
  split_ifs with hbelow habove heven
  · have hlt : (r : ℚ) / b < 1 / 2 := by
      rw [div_lt_iff₀ hbq]
      have : (2 * r : ℚ) < b := by exact_mod_cast hbelow
      linarith
    exact ⟨by linarith, by linarith, fun _ => ⟨by linarith, by linarith⟩⟩
  · have hgt : 1 / 2 < (r : ℚ) / b := by
      rw [lt_div_iff₀ hbq]
      have : (b : ℚ) < 2 * r := by exact_mod_cast habove
      linarith
    refine ⟨?_, ?_, fun _ => ⟨?_, ?_⟩⟩
    all_goals
      push_cast
      linarith
  · have hhalf : (r : ℚ) / b = 1 / 2 := by
      rw [div_eq_iff hbq.ne']
      have : (2 * r : ℚ) = b := by exact_mod_cast (show 2 * r = b by omega)
      linarith
    rw [beq_iff_eq] at heven
    exact ⟨by linarith, by linarith, fun hodd => by omega⟩
  · have hhalf : (r : ℚ) / b = 1 / 2 := by
      rw [div_eq_iff hbq.ne']
      have : (2 * r : ℚ) = b := by exact_mod_cast (show 2 * r = b by omega)
      linarith
    rw [beq_iff_eq] at heven
    refine ⟨?_, ?_, fun hodd => by omega⟩
    all_goals
      push_cast
      linarith

section

variable {d : ℕ} (hd : 0 < d)
include hd

theorem roundsTo_digitsTo (n : ℕ) (place : ℤ) :
    RoundsTo ((n : ℚ) / d / 2 ^ place) (digitsTo n d place) := by
  unfold digitsTo
  split_ifs with hplace
  · have hunit : 0 < Nat.pow 2 place.toNat := Nat.pow_pos (by norm_num)
    have hround := roundsTo_roundHalfEven n (Nat.mul_pos hd hunit)
    rwa [Nat.cast_mul, cast_pow_toNat hplace, Nat.cast_ofNat, ← div_div] at hround
  · have hround := roundsTo_roundHalfEven (n * Nat.pow 2 (-place).toNat) hd
    have hscale : ((n * Nat.pow 2 (-place).toNat : ℕ) : ℚ) / d = (n : ℚ) / d / 2 ^ place := by
      rw [Nat.cast_mul, cast_pow_toNat_neg hplace, Nat.cast_ofNat]
      ring
    rwa [hscale] at hround

theorem floorLog2_le_of_div_eq {n n' d' : ℕ} (hn : 0 < n) (hn' : 0 < n') (hd' : 0 < d')
    (h : (n : ℚ) / d = n' / d') : floorLog2 n d ≤ floorLog2 n' d' := by
  have hlow := (floorLog2_spec hn hd).1
  have hhigh := (floorLog2_spec hn' hd').2
  rw [h] at hlow
  exact Int.lt_add_one_iff.1 (lt_of_two_zpow_lt (hlow.trans_lt hhigh))

end

namespace Binary64

/-- Two quotients that are equal are rounded to the same number. -/
theorem ofRatio_congr {n d n' d' : ℕ} (hd : 0 < d) (hd' : 0 < d') (h : (n : ℚ) / d = n' / d')
    (negative : Bool) : ofRatio negative n d = ofRatio negative n' d' := by
  have hdq : (d : ℚ) ≠ 0 := by exact_mod_cast hd.ne'
  have hdq' : (d' : ℚ) ≠ 0 := by exact_mod_cast hd'.ne'
  by_cases hzero : n = 0
  · have hzero' : n' = 0 := by
      rw [hzero, Nat.cast_zero, zero_div, eq_comm, div_eq_zero_iff, Nat.cast_eq_zero] at h
      exact h.resolve_right hdq'
    simp only [hzero, hzero', ofRatio, beq_self_eq_true, if_true]
  · have hn : 0 < n := Nat.pos_of_ne_zero hzero
    have hn' : 0 < n' := by
      refine Nat.pos_of_ne_zero fun hzero' => hzero ?_
      rw [hzero', Nat.cast_zero, zero_div, div_eq_zero_iff, Nat.cast_eq_zero] at h
      exact h.resolve_right hdq
    have hlog : floorLog2 n d = floorLog2 n' d' :=
      le_antisymm (floorLog2_le_of_div_eq hd hn hn' hd' h)
        (floorLog2_le_of_div_eq hd' hn' hn hd h.symm)
    have hdigits : ∀ place, digitsTo n d place = digitsTo n' d' place := by
      intro place
      refine digitsTo_eq hd ?_
      rw [h]
      exact roundsTo_digitsTo hd' n' place
    rw [ofRatio_eq_ofMagnitude hn, ofRatio_eq_ofMagnitude hn', hlog, hdigits]

/-- A rounded quotient is near the quotient: half a unit of the last place that numbers below
`2 ^ e` have. -/
theorem abs_quantity_ofRatio_sub_le {n d : ℕ} (hd : 0 < d) {e : ℤ} (hleast : -1021 ≤ e)
    (hgreatest : e ≤ 1000) (h : (n : ℚ) / d < 2 ^ e) (negative : Bool) :
    |(ofRatio negative n d).quantity - (n : ℚ) / d| ≤ 2 ^ (e - 54) := by
  rcases Nat.eq_zero_or_pos n with rfl | hn
  · rw [quantity_ofRatio_zero, Nat.cast_zero, zero_div, sub_zero, abs_zero]
    positivity
  have hsmall : (n : ℚ) / d < 2 ^ (1000 : ℤ) :=
    h.trans_le (zpow_le_zpow_right₀ (by norm_num) hgreatest)
  have hplace : lastPlace n d ≤ e - 53 := by
    have := floorLog2_lt hn hd h
    unfold lastPlace
    omega
  have hround := roundsTo_digitsTo hd n (lastPlace n d)
  rw [quantity_ofRatio hn hd hsmall]
  generalize digitsTo n d (lastPlace n d) = digits at hround
  generalize lastPlace n d = place at hround hplace
  generalize (n : ℚ) / d = x at hround
  have hunit : (0 : ℚ) < 2 ^ place := by positivity
  have hdistance : |(digits : ℚ) - x / 2 ^ place| ≤ 1 / 2 := by
    rw [abs_le]
    constructor <;> linarith [hround.lower, hround.upper]
  calc |(digits : ℚ) * 2 ^ place - x|
    _ = |(digits : ℚ) - x / 2 ^ place| * 2 ^ place := by
      rw [← abs_of_pos hunit, ← abs_mul, abs_of_pos hunit, sub_mul, div_mul_cancel₀ _ hunit.ne']
    _ ≤ 1 / 2 * 2 ^ (e - 53) := by gcongr; norm_num
    _ = 2 ^ (e - 54) := by
      rw [show e - 53 = e - 54 + 1 by ring, zpow_add_one₀ (by norm_num)]
      ring

/-! ## Values -/

/-- The number that a finite pattern stands for. -/
def value (v : Binary64) : ℚ :=
  if v.negative then -v.quantity else v.quantity

theorem quantity_nonneg (v : Binary64) : 0 ≤ v.quantity := by
  unfold quantity
  positivity

theorem abs_value (v : Binary64) : |v.value| = v.quantity := by
  unfold value
  split_ifs
  · rw [abs_neg, abs_of_nonneg v.quantity_nonneg]
  · exact abs_of_nonneg v.quantity_nonneg

theorem quantity_eq_zero_iff {v : Binary64} : v.quantity = 0 ↔ v.magnitude = 0 := by
  constructor
  · intro h
    by_contra hmagnitude
    have hdigits : (0 : ℚ) < v.significand := by exact_mod_cast Decimal.significand_pos hmagnitude
    have hpos : 0 < v.quantity := by
      unfold quantity
      positivity
    exact hpos.ne' h
  · intro h
    have hparts : v.magnitude = 0 * fractionCount + 0 := h
    rw [quantity_of_magnitude_eq 0 0 hparts (by decide), if_pos rfl, Nat.cast_zero, zero_mul]

/-- The numbers below zero are those with a sign, the negative zero apart. -/
theorem value_neg_iff {v : Binary64} : v.value < 0 ↔ v.negative = true ∧ v.magnitude ≠ 0 := by
  have hnonneg := v.quantity_nonneg
  rw [ne_eq, ← quantity_eq_zero_iff]
  unfold value
  split_ifs with hnegative
  · rw [neg_lt_zero, lt_iff_le_and_ne]
    simp [hnegative, hnonneg, eq_comm]
  · simp [hnegative, hnonneg]

theorem lessThan_zero_iff {v : Binary64} (h : v.isNaN = false) :
    v.lessThan (zero false) = true ↔ v.value < 0 := by
  have hzero : (zero false).isNaN = false ∧ (zero false).orderKey = 0 := by decide
  rw [value_neg_iff, lessThan, h, hzero.1, hzero.2, orderKey]
  split_ifs with hnegative
  · simp [hnegative, Nat.pos_iff_ne_zero]
  · simp [hnegative]

/-- The quantity of a pattern does not depend on its sign. -/
theorem quantity_ofMagnitude_magnitude (negative : Bool) (v : Binary64) :
    (ofMagnitude negative v.magnitude).quantity = v.quantity := by
  have hmagnitude : (ofMagnitude negative v.magnitude).magnitude = v.magnitude :=
    (magnitude_ofMagnitude (Nat.mod_lt _ (by decide))).1
  exact le_antisymm (magnitude_le_iff.1 hmagnitude.le) (magnitude_le_iff.1 hmagnitude.ge)

/-! ## Operations -/

/-- The number nearest to a rational number, a tie going to the even pattern. -/
def ofRational (x : ℚ) : Binary64 :=
  ofRatio (decide (x < 0)) x.num.natAbs x.den

/-- The difference of two finite numbers. -/
def minus (v w : Binary64) : Binary64 :=
  ofRational (v.value - w.value)

/-- The product of two finite numbers that are not negative. -/
def times (v w : Binary64) : Binary64 :=
  ofRational (v.value * w.value)

/-- The whole part of a finite number that is not negative. -/
def truncated (v : Binary64) : Binary64 :=
  ofRational ⌊v.value⌋₊

theorem value_ofRatio_false (n d : ℕ) :
    (ofRatio false n d).value = (ofRatio false n d).quantity := by
  rw [value, (negative_ofRatio false n d).1]
  rfl

theorem ofRational_div (n : ℕ) {d : ℕ} (hd : 0 < d) :
    ofRational ((n : ℚ) / d) = ofRatio false n d := by
  have hnonneg : 0 ≤ (n : ℚ) / d := by positivity
  generalize hx : (n : ℚ) / d = x at hnonneg
  have hnum : ((x.num.natAbs : ℕ) : ℚ) = x.num := by
    rw [← Int.cast_natCast, Int.natAbs_of_nonneg (Rat.num_nonneg.2 hnonneg)]
  unfold ofRational
  rw [decide_eq_false (not_lt.2 hnonneg)]
  refine ofRatio_congr x.den_pos hd ?_ false
  rw [hnum, Rat.num_div_den, hx]

/-- A number that has few binary digits is not changed. -/
theorem value_ofRational_of_dyadic {x : ℚ} {digits places : ℕ} (hdigits : digits < 2 ^ 53)
    (hplaces : places ≤ 1074) (h : x = digits / 2 ^ places) : (ofRational x).value = x := by
  have hdyadic : (digits : ℚ) / (2 ^ places : ℕ) = digits / 2 ^ places := by
    rw [Nat.cast_pow, Nat.cast_ofNat]
  have hpos : 0 < 2 ^ places := Nat.pow_pos (by norm_num)
  rw [h, ← hdyadic, ofRational_div digits hpos, value_ofRatio_false,
    quantity_ofRatio_of_dyadic hpos hdigits hplaces hdyadic]

end Binary64

end Patchbay
