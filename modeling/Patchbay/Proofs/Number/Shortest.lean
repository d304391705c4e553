import Patchbay.Number.Shortest
import Patchbay.Proofs.Number.Rounding

/-!
# The shortest decimal rounds back

The search for the shortest decimal looks at the two neighbours of a number on one grid after the
other, and takes a point only if it lies in the interval of the number.  If it finds none, the exact
decimal is taken, which lies in the interval as well.  So whatever the search does, its result is
rounded back to the number (`covers_shortest`).
-/

namespace Patchbay

namespace Decimal

/-- The number that a decimal stands for. -/
def amount (d : Decimal) : ℚ :=
  d.coefficient * 10 ^ d.exponent

/-! ## Points of a grid -/

section

variable (v : Binary64)

/-- The unit of the interval is a quarter of the last place. -/
theorem Interval.scaleDown_eq :
    ((Interval.of v).scaleDown : ℚ) = (Interval.of v).scaleUp * (4 / 2 ^ v.exponent) := by
  have hquarter : (2 : ℚ) ^ (v.exponent - 2) = 2 ^ v.exponent / 4 := by
    rw [zpow_sub₀ (by norm_num)]
    norm_num
  have hinverse : 4 / (2 : ℚ) ^ v.exponent = (2 ^ (v.exponent - 2))⁻¹ := by
    rw [hquarter, inv_div]
  rw [hinverse]
  simp only [Interval.of]
  split_ifs with hplace
  · rw [cast_pow_toNat hplace, Nat.cast_one, Nat.cast_ofNat, mul_inv_cancel₀ (by positivity)]
  · rw [cast_pow_toNat_neg hplace, Nat.cast_one, one_mul, Nat.cast_ofNat]

theorem Interval.scaleUp_pos : 0 < (Interval.of v).scaleUp := by
  simp only [Interval.of]
  split_ifs
  · exact Nat.pow_pos (by norm_num)
  · exact Nat.one_pos

theorem Interval.unit_pos (grid : ℤ) : 0 < ((Interval.of v).scales grid).1 := by
  have hup := Interval.scaleUp_pos v
  unfold Interval.scales
  split_ifs
  · exact hup
  · exact Nat.mul_pos hup (Nat.pow_pos (by norm_num))

/-- A point of a grid, counted in quarters of the last place, is compared with natural numbers. -/
theorem Interval.cast_mul_mesh (grid : ℤ) (p : ℕ) :
    ((p * ((Interval.of v).scales grid).2 : ℕ) : ℚ) =
      4 * ((p : ℚ) * 10 ^ grid / 2 ^ v.exponent) * ((Interval.of v).scales grid).1 := by
  have hmesh : (((Interval.of v).scales grid).2 : ℚ) =
      ((Interval.of v).scales grid).1 * (10 ^ grid * (4 / 2 ^ v.exponent)) := by
    unfold Interval.scales
    split_ifs with hgrid
    · simp only
      rw [Nat.cast_mul, cast_pow_toNat hgrid, Nat.cast_ofNat, Interval.scaleDown_eq]
      ring
    · have hpos : (0 : ℚ) < 10 ^ grid := by positivity
      simp only
      rw [Nat.cast_mul, cast_pow_toNat_neg hgrid, Nat.cast_ofNat, Interval.scaleDown_eq]
      field_simp
  rw [Nat.cast_mul, hmesh]
  ring

theorem Interval.mul_unit_le_iff (grid : ℤ) (q p : ℕ) :
    q * ((Interval.of v).scales grid).1 ≤ p * ((Interval.of v).scales grid).2 ↔
      (q : ℚ) ≤ 4 * ((p : ℚ) * 10 ^ grid / 2 ^ v.exponent) := by
  have hunit : (0 : ℚ) < ((Interval.of v).scales grid).1 := by
    exact_mod_cast Interval.unit_pos v grid
  rw [← mul_le_mul_iff_of_pos_right hunit, ← Interval.cast_mul_mesh]
  exact_mod_cast Iff.rfl

theorem Interval.le_mul_unit_iff (grid : ℤ) (q p : ℕ) :
    p * ((Interval.of v).scales grid).2 ≤ q * ((Interval.of v).scales grid).1 ↔
      4 * ((p : ℚ) * 10 ^ grid / 2 ^ v.exponent) ≤ q := by
  have hunit : (0 : ℚ) < ((Interval.of v).scales grid).1 := by
    exact_mod_cast Interval.unit_pos v grid
  rw [← mul_le_mul_iff_of_pos_right hunit, ← Interval.cast_mul_mesh]
  exact_mod_cast Iff.rfl

end

section

variable {v : Binary64}

/-- The point lies between the ends of the interval, and apart from them if the digits are odd. -/
theorem Interval.of_holds {grid : ℤ} {p : ℕ} (h : (Interval.of v).holds grid p = true) :
    ((Interval.of v).low : ℚ) ≤ 4 * ((p : ℚ) * 10 ^ grid / 2 ^ v.exponent) ∧
      4 * ((p : ℚ) * 10 ^ grid / 2 ^ v.exponent) ≤ (Interval.of v).high ∧
        (v.significand % 2 = 1 →
          ((Interval.of v).low : ℚ) < 4 * ((p : ℚ) * 10 ^ grid / 2 ^ v.exponent) ∧
            4 * ((p : ℚ) * 10 ^ grid / 2 ^ v.exponent) < (Interval.of v).high) := by
  have hclosed : (Interval.of v).closed = (v.significand % 2 == 0) := rfl
  unfold Interval.holds at h
  simp only at h
  split_ifs at h with heven
  · rw [Bool.and_eq_true, decide_eq_true_eq, decide_eq_true_eq] at h
    rw [hclosed, beq_iff_eq] at heven
    refine ⟨(Interval.mul_unit_le_iff v grid _ p).1 h.1,
      (Interval.le_mul_unit_iff v grid _ p).1 h.2, ?_⟩
    intro hodd
    omega
  · rw [Bool.and_eq_true, decide_eq_true_eq, decide_eq_true_eq] at h
    have hlow : ((Interval.of v).low : ℚ) < 4 * ((p : ℚ) * 10 ^ grid / 2 ^ v.exponent) := by
      rw [← not_le, ← Interval.le_mul_unit_iff, not_le]
      exact h.1
    have hhigh : 4 * ((p : ℚ) * 10 ^ grid / 2 ^ v.exponent) < (Interval.of v).high := by
      rw [← not_le, ← Interval.mul_unit_le_iff, not_le]
      exact h.2
    exact ⟨hlow.le, hhigh.le, fun _ => ⟨hlow, hhigh⟩⟩

theorem covers_of_holds (hpos : 0 < v.significand) {grid : ℤ} {p : ℕ}
    (h : (Interval.of v).holds grid p = true) : v.Covers (amount ⟨p, grid⟩) := by
  obtain ⟨hlow, hhigh, htie⟩ := Interval.of_holds h
  have hhigh_eq : ((Interval.of v).high : ℚ) = 4 * v.significand + 2 := by
    simp only [Interval.of]
    push_cast
    rfl
  have hlow_ge : (4 * v.significand : ℚ) ≤ (Interval.of v).low + 2 := by
    have hle : 4 * v.significand ≤ (Interval.of v).low + 2 := by
      simp only [Interval.of]
      split_ifs <;> omega
    exact_mod_cast hle
  -- the lower end is nearer by one quarter if `v` is a power of two
  have hlow_narrow : v.NarrowBelow → (4 * v.significand : ℚ) ≤ (Interval.of v).low + 1 := by
    rintro ⟨hcount, hfield⟩
    have hle : 4 * v.significand ≤ (Interval.of v).low + 1 := by
      simp only [Interval.of, hcount, hfield, beq_self_eq_true, decide_true, Bool.and_true, if_true]
      omega
    exact_mod_cast hle
  rw [hhigh_eq] at hhigh htie
  refine ⟨⟨?_, ?_, ?_⟩, ?_⟩
  · rw [amount]
    linarith
  · rw [amount]
    linarith
  · intro hodd
    obtain ⟨hlt, hgt⟩ := htie hodd
    rw [amount]
    constructor <;> linarith
  · intro hnarrow
    have := hlow_narrow hnarrow
    rw [amount]
    linarith

/-! ## The search -/

theorem holds_of_pointOn? {interval : Interval} {tie : Tie} {grid : ℤ} {p : ℕ}
    (h : interval.pointOn? tie grid = some p) : interval.holds grid p = true := by
  unfold Interval.pointOn? at h
  simp only at h
  generalize hquotient : interval.value * (interval.scales grid).1 / (interval.scales grid).2 =
    below at h
  split at h
  · cases h
  · cases h
    assumption
  · cases h
    assumption
  · next hbelow habove =>
      -- of two points in the interval, either may be taken
      have hcases : p = below ∨ p = below + 1 := by
        cases tie with
        | up => split_ifs at h <;> cases h <;> simp
        | even => split_ifs at h <;> cases h <;> simp
      rcases hcases with rfl | rfl
      · exact hbelow
      · exact habove

theorem holds_of_search {interval : Interval} {tie : Tie} {count : ℕ} {grid : ℤ} {d : Decimal}
    (h : interval.search tie count grid = some d) :
    interval.holds d.exponent d.coefficient = true := by
  induction count generalizing grid with
  | zero => cases h
  | succ count ih =>
      rw [Interval.search] at h
      split at h
      · next p hpoint =>
          cases h
          exact holds_of_pointOn? hpoint
      · exact ih h

theorem amount_exact (v : Binary64) : (exact v).amount = v.quantity := by
  unfold exact
  split_ifs with hexponent
  · rw [amount, Nat.cast_mul, cast_pow_toNat hexponent, Nat.cast_ofNat, zpow_zero, mul_one,
      Binary64.quantity]
  · have hten : (10 : ℚ) = 5 * 2 := by norm_num
    rw [amount, Nat.cast_mul, cast_pow_toNat_neg hexponent, Nat.cast_ofNat, hten, mul_zpow,
      Binary64.quantity]
    field_simp

theorem significand_pos (h : v.magnitude ≠ 0) : 0 < v.significand := by
  have hcount : 0 < Binary64.fractionCount := by decide
  have hdivision := Nat.div_add_mod v.magnitude Binary64.fractionCount
  unfold Binary64.significand Binary64.exponentField
  split_ifs with hfield
  · rw [beq_iff_eq] at hfield
    rw [hfield, Nat.mul_zero] at hdivision
    omega
  · omega

/-- The decimal that is shown rounds back to the number. -/
theorem covers_shortest (tie : Tie) (h : v.magnitude ≠ 0) : v.Covers (shortest tie v).amount := by
  rw [shortest, if_neg (by rwa [beq_iff_eq])]
  cases hsearch : (Interval.of v).search tie 20 (coarsestGrid v) with
  | none =>
      rw [Option.getD_none, amount_exact]
      exact v.covers_quantity
  | some d => exact covers_of_holds (significand_pos h) (holds_of_search hsearch)

end

end Decimal

end Patchbay
