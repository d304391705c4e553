import Mathlib.Algebra.Order.Field.Power
import Mathlib.Data.Rat.Cast.Order
import Mathlib.Tactic.FieldSimp
import Mathlib.Tactic.Linarith
import Mathlib.Tactic.NormNum
import Mathlib.Tactic.Positivity
import Mathlib.Tactic.Ring
import Patchbay.Number.Binary64

/-!
# Rounding to binary numbers

`Binary64.ofRatio` finds the last place of the result, rounds to it and puts the pattern together.
This file says which quotients it takes to a given number `v`: those in the interval of the numbers
that are nearer to `v` than to any other number, with its ends when the significand of `v` is even
(`ofRatio_of_covers`).

The interval reaches half a unit of the last place to both sides, but only a quarter below a power
of two, where the numbers below are closer together.  A quotient in this quarter is rounded to the
finer place there, and the carry of its digits leads back to `v`.
-/

namespace Patchbay

/-! ## Whole numbers -/

/-- `k` is the nearest natural number to `x`, and the even one if there are two. -/
structure RoundsTo (x : ℚ) (k : ℕ) : Prop where
  lower : (k : ℚ) - 1 / 2 ≤ x
  upper : x ≤ k + 1 / 2
  tie : k % 2 = 1 → (k : ℚ) - 1 / 2 < x ∧ x < k + 1 / 2

theorem roundHalfEven_eq {a b k : ℕ} (hb : 0 < b) (h : RoundsTo ((a : ℚ) / b) k) :
    roundHalfEven a b = k := by
  have hbq : (0 : ℚ) < b := by exact_mod_cast hb
  have hlower : 2 * (k * b) ≤ 2 * a + b := by
    have hle := h.lower
    rw [le_div_iff₀ hbq] at hle
    have : (2 * (k * b) : ℚ) ≤ 2 * a + b := by linarith
    exact_mod_cast this
  have hupper : 2 * a ≤ 2 * (k * b) + b := by
    have hle := h.upper
    rw [div_le_iff₀ hbq] at hle
    have : (2 * a : ℚ) ≤ 2 * (k * b) + b := by linarith
    exact_mod_cast this
  have htie : k % 2 = 1 → 2 * (k * b) < 2 * a + b ∧ 2 * a < 2 * (k * b) + b := by
    intro hodd
    obtain ⟨hlt, hgt⟩ := h.tie hodd
    rw [lt_div_iff₀ hbq] at hlt
    rw [div_lt_iff₀ hbq] at hgt
    have hlt' : (2 * (k * b) : ℚ) < 2 * a + b := by linarith
    have hgt' : (2 * a : ℚ) < 2 * (k * b) + b := by linarith
    exact ⟨by exact_mod_cast hlt', by exact_mod_cast hgt'⟩
  have hdivision := Nat.div_add_mod a b
  have hremainder := Nat.mod_lt a hb
  unfold roundHalfEven
  simp only
  generalize a / b = q at hdivision ⊢
  generalize a % b = r at hdivision hremainder ⊢
  -- the nearest number is the quotient or the next one
  have hge : q ≤ k := by
    by_contra hlt
    have hmul : (k + 1) * b ≤ q * b := Nat.mul_le_mul_right b (Nat.not_le.1 hlt)
    rw [Nat.add_mul, Nat.mul_comm q b] at hmul
    omega
  have hle : k ≤ q + 1 := by
    by_contra hgt
    have hmul : (q + 2) * b ≤ k * b := Nat.mul_le_mul_right b (Nat.not_le.1 hgt)
    rw [Nat.add_mul, Nat.mul_comm q b] at hmul
    omega
  have hcases : k = q ∨ k = q + 1 := by omega
  rcases hcases with rfl | rfl
  · rw [Nat.mul_comm k b] at hlower hupper htie
    split_ifs with hbelow habove heven
    · rfl
    · omega
    · rfl
    · simp only [beq_iff_eq] at heven
      have := htie (by omega)
      omega
  · rw [Nat.add_mul, Nat.mul_comm q b] at hlower hupper htie
    split_ifs with hbelow habove heven
    · omega
    · rfl
    · simp only [beq_iff_eq] at heven
      have := htie (by omega)
      omega
    · rfl

theorem le_roundHalfEven {a b bound : ℕ} (hb : 0 < b) (h : bound * b ≤ a) :
    bound ≤ roundHalfEven a b := by
  have hquotient : bound ≤ a / b := (Nat.le_div_iff_mul_le hb).2 h
  unfold roundHalfEven
  simp only
  split_ifs <;> omega

theorem roundHalfEven_le {a b bound : ℕ} (hb : 0 < b) (h : a ≤ bound * b) :
    roundHalfEven a b ≤ bound := by
  have hdivision := Nat.div_add_mod a b
  have hquotient : a / b ≤ bound := Nat.div_le_of_le_mul (by rwa [Nat.mul_comm])
  unfold roundHalfEven
  simp only
  by_cases hexact : a / b = bound
  · -- nothing is left to be rounded up
    have hzero : a % b = 0 := by
      rw [hexact, Nat.mul_comm] at hdivision
      omega
    rw [hzero, hexact, Nat.mul_zero, if_pos hb]
  · split_ifs <;> omega

/-! ## Places -/

theorem cast_pow_toNat {z : ℤ} (hz : 0 ≤ z) (base : ℕ) :
    ((Nat.pow base z.toNat : ℕ) : ℚ) = (base : ℚ) ^ z := by
  rw [Nat.pow_eq, Nat.cast_pow, ← zpow_natCast, Int.toNat_of_nonneg hz]

theorem cast_pow_toNat_neg {z : ℤ} (hz : ¬ 0 ≤ z) (base : ℕ) :
    ((Nat.pow base (-z).toNat : ℕ) : ℚ) = ((base : ℚ) ^ z)⁻¹ := by
  rw [cast_pow_toNat (by omega), zpow_neg]

theorem lt_of_two_zpow_lt {a b : ℤ} (h : (2 : ℚ) ^ a < 2 ^ b) : a < b :=
  (zpow_lt_zpow_iff_right₀ (by norm_num)).1 h

/-- A natural number lies between two powers of two. -/
theorem log2_spec {n : ℕ} (hn : 0 < n) :
    (2 : ℚ) ^ (n.log2 : ℤ) ≤ n ∧ (n : ℚ) < 2 ^ ((n.log2 : ℤ) + 1) := by
  have hlow : 2 ^ n.log2 ≤ n := Nat.log2_self_le hn.ne'
  have hhigh : n < 2 ^ (n.log2 + 1) := Nat.lt_log2_self
  constructor
  · rw [zpow_natCast]
    exact_mod_cast hlow
  · rw [← Nat.cast_succ, zpow_natCast]
    exact_mod_cast hhigh

theorem floorLog2_spec {n d : ℕ} (hn : 0 < n) (hd : 0 < d) :
    (2 : ℚ) ^ floorLog2 n d ≤ (n : ℚ) / d ∧ (n : ℚ) / d < 2 ^ (floorLog2 n d + 1) := by
  have hdq : (0 : ℚ) < d := by exact_mod_cast hd
  obtain ⟨hnlow, hnhigh⟩ := log2_spec hn
  obtain ⟨hdlow, hdhigh⟩ := log2_spec hd
  unfold floorLog2
  simp only
  generalize hestimate : (n.log2 : ℤ) - d.log2 = estimate
  have hn_log : (n.log2 : ℤ) = estimate + d.log2 := by omega
  rw [hn_log] at hnlow hnhigh
  -- the estimate is right or one too great
  have habove : (n : ℚ) / d < 2 ^ (estimate + 1) := by
    rw [div_lt_iff₀ hdq]
    calc (n : ℚ) < 2 ^ (estimate + d.log2 + 1) := hnhigh
      _ = 2 ^ (estimate + 1) * 2 ^ (d.log2 : ℤ) := by
        rw [← zpow_add₀ (by norm_num)]
        congr 1
        ring
      _ ≤ 2 ^ (estimate + 1) * d := by gcongr
  have hbelow : (2 : ℚ) ^ (estimate - 1) ≤ n / d := by
    rw [le_div_iff₀ hdq]
    calc (2 : ℚ) ^ (estimate - 1) * d ≤ 2 ^ (estimate - 1) * 2 ^ ((d.log2 : ℤ) + 1) := by gcongr
      _ = 2 ^ (estimate + d.log2) := by
        rw [← zpow_add₀ (by norm_num)]
        congr 1
        ring
      _ ≤ n := hnlow
  have hreached : (if 0 ≤ estimate then d * Nat.pow 2 estimate.toNat ≤ n
      else d ≤ n * Nat.pow 2 (-estimate).toNat) ↔ (2 : ℚ) ^ estimate ≤ (n : ℚ) / d := by
    rw [le_div_iff₀ hdq]
    by_cases hsign : 0 ≤ estimate
    · have hpow := cast_pow_toNat hsign 2
      rw [Nat.cast_ofNat] at hpow
      rw [if_pos hsign, ← hpow, mul_comm]
      exact_mod_cast Iff.rfl
    · have hpow := cast_pow_toNat_neg hsign 2
      have hpos : (0 : ℚ) < 2 ^ estimate := by positivity
      rw [Nat.cast_ofNat] at hpow
      rw [if_neg hsign, ← Nat.cast_le (α := ℚ), Nat.cast_mul, hpow, ← div_eq_mul_inv,
        le_div_iff₀ hpos, mul_comm]
  by_cases hr : (2 : ℚ) ^ estimate ≤ (n : ℚ) / d
  · rw [if_pos (hreached.2 hr)]
    exact ⟨hr, habove⟩
  · rw [if_neg (fun h => hr (hreached.1 h)), sub_add_cancel]
    exact ⟨hbelow, not_le.1 hr⟩

theorem floorLog2_lt {n d : ℕ} (hn : 0 < n) (hd : 0 < d) {e : ℤ} (h : (n : ℚ) / d < 2 ^ e) :
    floorLog2 n d < e :=
  lt_of_two_zpow_lt ((floorLog2_spec hn hd).1.trans_lt h)

/-- The digits of a quotient down to a place. -/
def digitsTo (n d : ℕ) (place : ℤ) : ℕ :=
  if 0 ≤ place then roundHalfEven n (d * Nat.pow 2 place.toNat)
  else roundHalfEven (n * Nat.pow 2 (-place).toNat) d

theorem digitsTo_eq {n d k : ℕ} {place : ℤ} (hd : 0 < d)
    (h : RoundsTo ((n : ℚ) / d / 2 ^ place) k) : digitsTo n d place = k := by
  unfold digitsTo
  split_ifs with hplace
  · refine roundHalfEven_eq (Nat.mul_pos hd (Nat.pow_pos (by norm_num))) ?_
    rwa [Nat.cast_mul, cast_pow_toNat hplace, Nat.cast_ofNat, ← div_div]
  · refine roundHalfEven_eq hd ?_
    have hscale : ((n * Nat.pow 2 (-place).toNat : ℕ) : ℚ) / d = (n : ℚ) / d / 2 ^ place := by
      rw [Nat.cast_mul, cast_pow_toNat_neg hplace, Nat.cast_ofNat]
      ring
    rwa [hscale]

namespace Binary64

/-! ## Patterns -/

def IsFinite (v : Binary64) : Prop :=
  v.magnitude < infinityMagnitude

theorem ofMagnitude_magnitude (v : Binary64) : ofMagnitude v.negative v.magnitude = v := by
  have hbits : (if v.negative then v.magnitude + signPlace else v.magnitude) = v.bits.toNat := by
    have hlt : v.bits.toNat < 2 * signPlace := v.bits.toNat_lt
    have hdivision := Nat.div_add_mod v.bits.toNat signPlace
    unfold magnitude negative
    simp only [decide_eq_true_eq]
    split_ifs with hsign
    · have hone : v.bits.toNat / signPlace = 1 :=
        Nat.div_eq_of_lt_le (by omega) (by omega)
      rw [hone] at hdivision
      omega
    · exact Nat.mod_eq_of_lt (Nat.not_le.1 hsign)
  unfold ofMagnitude
  rw [hbits, UInt64.ofNat_toNat]

theorem magnitude_ofMagnitude {negative : Bool} {m : ℕ} (hm : m < signPlace) :
    (ofMagnitude negative m).magnitude = m ∧ (ofMagnitude negative m).negative = negative := by
  have hplace : signPlace = 2 ^ 63 := rfl
  have hbits : (ofMagnitude negative m).bits.toNat = if negative then m + signPlace else m := by
    rw [ofMagnitude, UInt64.toNat_ofNat', Nat.mod_eq_of_lt]
    split_ifs <;> omega
  unfold magnitude Binary64.negative
  rw [hbits]
  cases negative with
  | true =>
      simp only [if_true, Nat.add_mod_right]
      exact ⟨Nat.mod_eq_of_lt hm, by simp⟩
  | false =>
      simp only [Bool.false_eq_true, if_false]
      exact ⟨Nat.mod_eq_of_lt hm, by simpa using hm⟩

theorem isNaN_ofMagnitude {negative : Bool} {m : ℕ} (h : m ≤ infinityMagnitude) :
    (ofMagnitude negative m).isNaN = false := by
  rw [isNaN, (magnitude_ofMagnitude (Nat.lt_of_le_of_lt h (by decide))).1]
  exact decide_eq_false (Nat.not_lt.2 h)

section

variable (v : Binary64)

theorem significand_lt : v.significand < 2 ^ 53 := by
  have hfraction : v.magnitude % fractionCount < 2 ^ 52 := Nat.mod_lt _ (by decide)
  have hcount : fractionCount = 2 ^ 52 := rfl
  unfold significand
  split_ifs <;> omega

theorem exponent_ge : -1074 ≤ v.exponent := by
  unfold exponent
  omega

/-- Only at the least exponent are there fewer than fifty-three digits. -/
theorem significand_ge (h : v.exponent ≠ -1074) : 2 ^ 52 ≤ v.significand := by
  have hcount : fractionCount = 2 ^ 52 := rfl
  unfold exponent at h
  unfold significand
  rw [if_neg (by rw [beq_iff_eq]; omega)]
  omega

theorem magnitude_eq :
    v.magnitude = (v.exponent + 1074).toNat * fractionCount + v.significand := by
  have hdivision := Nat.div_add_mod v.magnitude fractionCount
  have hfield : v.magnitude / fractionCount = v.exponentField := rfl
  rw [hfield] at hdivision
  unfold exponent significand
  by_cases hzero : v.exponentField = 0
  · rw [hzero] at hdivision ⊢
    simp only [Nat.mul_zero, Nat.zero_add] at hdivision
    simpa using hdivision.symm
  · have hexponent : (((max v.exponentField 1 : ℕ) : ℤ) - 1075 + 1074).toNat =
        v.exponentField - 1 := by
      omega
    rw [hexponent, if_neg (by rwa [beq_iff_eq])]
    obtain ⟨field, hsucc⟩ := Nat.exists_eq_succ_of_ne_zero hzero
    rw [hsucc, Nat.succ_sub_one]
    rw [hsucc, Nat.mul_comm, Nat.succ_mul] at hdivision
    omega

end

/-- The quantity that a finite number stands for, apart from its sign. -/
def quantity (v : Binary64) : ℚ :=
  v.significand * 2 ^ v.exponent

/-! ## The interval of a number -/

/-- The numbers below are closer together than those above. -/
def NarrowBelow (v : Binary64) : Prop :=
  v.significand = fractionCount ∧ 1 < v.exponentField

/-- The number `x`, counted in units of the last place of `v`, is nearer to the digits of `v` than
to those of any other number; on a tie, the digits are even. -/
structure Covers (v : Binary64) (x : ℚ) : Prop where
  near : RoundsTo (x / 2 ^ v.exponent) v.significand
  narrow : v.NarrowBelow → (v.significand : ℚ) - 1 / 4 ≤ x / 2 ^ v.exponent

theorem covers_quantity (v : Binary64) : v.Covers v.quantity := by
  have hdigits : v.quantity / 2 ^ v.exponent = v.significand := by
    rw [quantity, mul_div_cancel_right₀ _ (by positivity)]
  refine ⟨⟨?_, ?_, ?_⟩, ?_⟩
  · rw [hdigits]
    linarith
  · rw [hdigits]
    linarith
  · intro _
    rw [hdigits]
    constructor <;> linarith
  · intro _
    rw [hdigits]
    linarith

section

variable {v : Binary64} {n d : ℕ}

theorem ofRatio_eq_ofMagnitude (hn : 0 < n) (negative : Bool) :
    ofRatio negative n d =
      ofMagnitude negative (min infinityMagnitude
        ((max (-1074) (floorLog2 n d - 52) + 1074).toNat * fractionCount +
          digitsTo n d (max (-1074) (floorLog2 n d - 52)))) := by
  rw [ofRatio, if_neg (by rw [beq_iff_eq]; omega)]
  rfl

/-- A quotient with the last place of `v`. -/
theorem ofRatio_of_place (hfinite : v.IsFinite) (hn : 0 < n) (hd : 0 < d)
    (h : RoundsTo ((n : ℚ) / d / 2 ^ v.exponent) v.significand)
    (hplace : max (-1074) (floorLog2 n d - 52) = v.exponent) : ofRatio v.negative n d = v := by
  rw [ofRatio_eq_ofMagnitude hn, hplace, digitsTo_eq hd h, ← magnitude_eq,
    Nat.min_eq_right (Nat.le_of_lt hfinite), ofMagnitude_magnitude]

/-- A quotient just below a power of two, which has a finer last place. -/
theorem ofRatio_of_carry (hfinite : v.IsFinite) (hn : 0 < n) (hd : 0 < d)
    (hsignificand : v.significand = fractionCount) (hexponent : v.exponent ≠ -1074)
    (h : RoundsTo ((n : ℚ) / d / 2 ^ (v.exponent - 1)) (2 * fractionCount))
    (hplace : max (-1074) (floorLog2 n d - 52) = v.exponent - 1) :
    ofRatio v.negative n d = v := by
  have hlt : -1074 < v.exponent := lt_of_le_of_ne v.exponent_ge hexponent.symm
  have hcarry : (v.exponent - 1 + 1074).toNat * fractionCount + 2 * fractionCount =
      v.magnitude := by
    have hplaces : (v.exponent + 1074).toNat = (v.exponent - 1 + 1074).toNat + 1 := by omega
    rw [magnitude_eq, hsignificand, hplaces]
    ring
  rw [ofRatio_eq_ofMagnitude hn, hplace, digitsTo_eq hd h, hcarry,
    Nat.min_eq_right (Nat.le_of_lt hfinite), ofMagnitude_magnitude]

/-- Powers of two, counted in units of the last place. -/
theorem two_pow_le_iff (e : ℤ) (k : ℕ) (x : ℚ) : (2 : ℚ) ^ (e + k) ≤ x ↔ 2 ^ k ≤ x / 2 ^ e := by
  have hunit : (0 : ℚ) < 2 ^ e := by positivity
  rw [le_div_iff₀ hunit, add_comm, zpow_add₀ (by norm_num), zpow_natCast]

theorem lt_floorLog2_of_le (hn : 0 < n) (hd : 0 < d) {e : ℤ} {k : ℕ}
    (h : 2 ^ k ≤ (n : ℚ) / d / 2 ^ e) : e + k < floorLog2 n d + 1 := by
  rw [← two_pow_le_iff] at h
  exact lt_of_two_zpow_lt (h.trans_lt (floorLog2_spec hn hd).2)

theorem floorLog2_lt_of_lt (hn : 0 < n) (hd : 0 < d) {e : ℤ} {k : ℕ}
    (h : (n : ℚ) / d / 2 ^ e < 2 ^ k) : floorLog2 n d < e + k := by
  rw [← not_le, ← two_pow_le_iff, not_le] at h
  exact floorLog2_lt hn hd h

theorem floorLog2_lt_of_covers (hn : 0 < n) (hd : 0 < d) (h : v.Covers ((n : ℚ) / d)) :
    floorLog2 n d < v.exponent + (53 : ℕ) := by
  have hdigits : (v.significand : ℚ) + 1 ≤ 2 ^ 53 := by exact_mod_cast v.significand_lt
  refine floorLog2_lt_of_lt hn hd ?_
  linarith [h.near.upper]

theorem cast_fractionCount : (fractionCount : ℚ) = 2 ^ 52 := by
  rw [fractionCount, Nat.pow_eq]
  norm_num

/-- Below the power of two that `v` is, the last place is finer, and the digits carry. -/
theorem ofRatio_of_covers_below (hfinite : v.IsFinite) (hn : 0 < n) (hd : 0 < d)
    (h : v.Covers ((n : ℚ) / d)) (hleast : v.exponent ≠ -1074)
    (hbelow : (n : ℚ) / d / 2 ^ v.exponent < 2 ^ 52) : ofRatio v.negative n d = v := by
  have hsignificand : v.significand = fractionCount := by
    have hge := v.significand_ge hleast
    have hlt : (v.significand : ℚ) < 2 ^ 52 + 1 := by linarith [h.near.lower]
    have hlt' : v.significand < 2 ^ 52 + 1 := by exact_mod_cast hlt
    have hcount : fractionCount = 2 ^ 52 := rfl
    omega
  have hfield : 1 < v.exponentField := by
    unfold exponent at hleast
    omega
  -- below a power of two only a quarter of a unit is covered, which is half a finer unit
  have hquarter := h.narrow ⟨hsignificand, hfield⟩
  rw [hsignificand, cast_fractionCount] at hquarter
  have hfiner : (n : ℚ) / d / 2 ^ (v.exponent - 1) = 2 * ((n : ℚ) / d / 2 ^ v.exponent) := by
    rw [zpow_sub_one₀ (by norm_num)]
    field_simp
  refine ofRatio_of_carry hfinite hn hd hsignificand hleast ?_ ?_
  · have hdigits : ((2 * fractionCount : ℕ) : ℚ) = 2 * 2 ^ 52 := by
      rw [Nat.cast_mul, cast_fractionCount, Nat.cast_ofNat]
    refine ⟨?_, ?_, ?_⟩
    · rw [hfiner, hdigits]
      linarith
    · rw [hfiner, hdigits]
      linarith
    · intro hodd
      omega
  · have hge := v.exponent_ge
    have hhalf : (2 : ℚ) ^ 51 ≤ (n : ℚ) / d / 2 ^ v.exponent := by linarith
    have hgreater := lt_floorLog2_of_le hn hd hhalf
    have hless := floorLog2_lt_of_lt hn hd hbelow
    omega

/-- Every quotient in the interval of a number is rounded to it. -/
theorem ofRatio_of_covers (hfinite : v.IsFinite) (hn : 0 < n) (hd : 0 < d)
    (h : v.Covers ((n : ℚ) / d)) : ofRatio v.negative n d = v := by
  have hge := v.exponent_ge
  have hless := floorLog2_lt_of_covers hn hd h
  by_cases hleast : v.exponent = -1074
  · refine ofRatio_of_place hfinite hn hd h.near ?_
    omega
  · by_cases hbelow : (n : ℚ) / d / 2 ^ v.exponent < 2 ^ 52
    · exact ofRatio_of_covers_below hfinite hn hd h hleast hbelow
    · have hgreater := lt_floorLog2_of_le hn hd (not_lt.1 hbelow)
      refine ofRatio_of_place hfinite hn hd h.near ?_
      omega

end

end Binary64

end Patchbay
