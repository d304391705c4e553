import Patchbay.Proofs.Number.Rounding

/-!
# The quantity of a binary number

The patterns of finite numbers are ordered like the quantities that they stand for, and rounding
keeps what a pattern can hold: the quantity of `ofRatio` is its digits at their place, also when the
digits carry into the exponent (`quantity_ofRatio`).
-/

namespace Patchbay.Binary64

/-! ## Order -/

section

variable {v w : Binary64}

/-- A greater exponent makes for a greater quantity, whatever the digits are. -/
theorem quantity_lt_of_exponent_lt (h : v.exponent < w.exponent) : v.quantity < w.quantity := by
  have hleast : w.exponent ≠ -1074 := by
    have := v.exponent_ge
    omega
  have hv : (v.significand : ℚ) < 2 ^ 53 := by exact_mod_cast v.significand_lt
  have hw : (2 : ℚ) ^ 52 ≤ w.significand := by exact_mod_cast w.significand_ge hleast
  have hunit : (0 : ℚ) < 2 ^ v.exponent := by positivity
  have hpow : (2 : ℚ) ^ (v.exponent + 1) ≤ 2 ^ w.exponent :=
    zpow_le_zpow_right₀ (by norm_num) h
  calc v.quantity < 2 ^ 53 * 2 ^ v.exponent := mul_lt_mul_of_pos_right hv hunit
    _ = 2 ^ 52 * 2 ^ (v.exponent + 1) := by
      rw [zpow_add_one₀ (by norm_num)]
      ring
    _ ≤ w.significand * 2 ^ w.exponent := by gcongr

theorem quantity_lt_of_magnitude_lt (h : v.magnitude < w.magnitude) : v.quantity < w.quantity := by
  rw [magnitude_eq, magnitude_eq] at h
  rcases lt_trichotomy v.exponent w.exponent with hlt | heq | hgt
  · exact quantity_lt_of_exponent_lt hlt
  · rw [heq] at h
    have hdigits : (v.significand : ℚ) < w.significand := by
      exact_mod_cast Nat.lt_of_add_lt_add_left h
    rw [quantity, quantity, heq]
    gcongr
  · have hcount : fractionCount = 2 ^ 52 := rfl
    have hw := w.significand_lt
    have hge := w.exponent_ge
    have hv := v.significand_ge (by omega)
    have hmul : ((w.exponent + 1074).toNat + 1) * fractionCount ≤
        (v.exponent + 1074).toNat * fractionCount := Nat.mul_le_mul_right _ (by omega)
    rw [Nat.add_mul, hcount] at hmul
    rw [hcount] at h
    omega

theorem magnitude_le_iff : v.magnitude ≤ w.magnitude ↔ v.quantity ≤ w.quantity := by
  constructor
  · intro h
    rcases Nat.lt_or_eq_of_le h with hlt | heq
    · exact (quantity_lt_of_magnitude_lt hlt).le
    · have hexponent : v.exponent = w.exponent := by
        rw [exponent, exponent, exponentField, exponentField, heq]
      have hsignificand : v.significand = w.significand := by
        rw [significand, significand, exponentField, exponentField, heq]
      rw [quantity, quantity, hexponent, hsignificand]
  · intro h
    by_contra hlt
    exact absurd h (not_le.2 (quantity_lt_of_magnitude_lt (Nat.not_le.1 hlt)))

end

/-! ## Digits at a place -/

/-- A number is known from the two parts of its magnitude. -/
theorem quantity_of_magnitude_eq {v : Binary64} (field fraction : ℕ)
    (h : v.magnitude = field * fractionCount + fraction) (hfraction : fraction < fractionCount) :
    v.quantity = if field = 0 then (fraction : ℚ) * 2 ^ (-1074 : ℤ)
      else ((fraction : ℚ) + 2 ^ 52) * 2 ^ ((field : ℤ) - 1075) := by
  have hcount : 0 < fractionCount := by decide
  have hfield : v.exponentField = field := by
    rw [exponentField, h, Nat.mul_comm, Nat.mul_add_div hcount, Nat.div_eq_of_lt hfraction,
      Nat.add_zero]
  have hrest : v.magnitude % fractionCount = fraction := by
    rw [h, Nat.mul_comm, Nat.mul_add_mod, Nat.mod_eq_of_lt hfraction]
  rw [quantity, significand, exponent, hfield, hrest]
  split_ifs with hzero hzero' hzero'
  · rw [hzero']
    norm_num
  · exact absurd (eq_of_beq hzero) hzero'
  · exact absurd (beq_iff_eq.2 hzero') hzero
  · rw [Nat.cast_add, cast_fractionCount, Nat.max_eq_left (Nat.one_le_iff_ne_zero.2 hzero')]

/-- The pattern of digits at a place stands for the digits at this place, also if they carry. -/
theorem quantity_ofMagnitude (negative : Bool) {place : ℤ} {digits : ℕ} (hge : -1074 ≤ place)
    (hle : place ≤ 970) (hdigits : digits ≤ 2 ^ 53) (hnormal : 2 ^ 52 ≤ digits ∨ place = -1074) :
    (ofMagnitude negative ((place + 1074).toNat * fractionCount + digits)).quantity =
      digits * 2 ^ place := by
  have hcount : fractionCount = 2 ^ 52 := rfl
  obtain ⟨lowest, hlowest⟩ : ∃ lowest : ℕ, (place + 1074).toNat = lowest := ⟨_, rfl⟩
  have hplace : place = (lowest : ℤ) - 1074 := by omega
  rw [hlowest]
  generalize hv : ofMagnitude negative (lowest * fractionCount + digits) = v
  have hmagnitude : v.magnitude = lowest * 2 ^ 52 + digits := by
    rw [← hv, hcount]
    refine (magnitude_ofMagnitude ?_).1
    have hsign : signPlace = 2 ^ 63 := rfl
    omega
  by_cases hfew : digits < 2 ^ 52
  · -- only the least exponent has so few digits
    have hparts : v.magnitude = 0 * fractionCount + digits := by omega
    have hleast : place = -1074 := by omega
    rw [quantity_of_magnitude_eq 0 digits hparts hfew, if_pos rfl, hleast]
  · -- a carry leaves no fraction and goes into the exponent
    by_cases hcarry : digits = 2 ^ 53
    · have hparts : v.magnitude = (lowest + 2) * fractionCount + 0 := by
        rw [hmagnitude, hcarry, hcount]
        ring
      have hplaces : ((lowest + 2 : ℕ) : ℤ) - 1075 = place + 1 := by omega
      rw [quantity_of_magnitude_eq (lowest + 2) 0 hparts (by decide), if_neg (by omega), hplaces,
        zpow_add_one₀ (by norm_num), hcarry]
      push_cast
      ring
    · have hparts : v.magnitude = (lowest + 1) * fractionCount + (digits - 2 ^ 52) := by
        rw [hmagnitude, hcount, Nat.add_mul]
        omega
      have hplaces : ((lowest + 1 : ℕ) : ℤ) - 1075 = place := by omega
      rw [quantity_of_magnitude_eq (lowest + 1) _ hparts (by omega), if_neg (by omega), hplaces,
        Nat.cast_sub (Nat.not_lt.1 hfew)]
      push_cast
      ring

/-! ## Rounded quotients -/

/-- A rounded quotient keeps its sign and is a number. -/
theorem negative_ofRatio (negative : Bool) (n d : ℕ) :
    (ofRatio negative n d).negative = negative ∧ (ofRatio negative n d).isNaN = false := by
  obtain ⟨m, hm, hratio⟩ : ∃ m ≤ infinityMagnitude,
      ofRatio negative n d = ofMagnitude negative m := by
    rcases Nat.eq_zero_or_pos n with rfl | hn
    · exact ⟨0, Nat.zero_le _, rfl⟩
    · exact ⟨_, Nat.min_le_left _ _, ofRatio_eq_ofMagnitude hn negative⟩
  rw [hratio]
  exact ⟨(magnitude_ofMagnitude (hm.trans_lt (by decide))).2, isNaN_ofMagnitude hm⟩

section

variable {n d : ℕ} (hd : 0 < d) {place : ℤ} {bound : ℕ}
include hd

theorem digitsTo_le (h : (n : ℚ) / d / 2 ^ place ≤ bound) : digitsTo n d place ≤ bound := by
  have hdq : (0 : ℚ) < d := by exact_mod_cast hd
  have hunit : (0 : ℚ) < 2 ^ place := by positivity
  rw [div_le_iff₀ hunit, div_le_iff₀ hdq] at h
  unfold digitsTo
  split_ifs with hplace
  · refine roundHalfEven_le (Nat.mul_pos hd (Nat.pow_pos (by norm_num))) ?_
    rw [← Nat.cast_le (α := ℚ), Nat.cast_mul, Nat.cast_mul, cast_pow_toNat hplace, Nat.cast_ofNat]
    linarith
  · refine roundHalfEven_le hd ?_
    rw [← Nat.cast_le (α := ℚ), Nat.cast_mul, Nat.cast_mul, cast_pow_toNat_neg hplace,
      Nat.cast_ofNat, ← div_eq_mul_inv, div_le_iff₀ hunit]
    linarith

theorem le_digitsTo (h : bound ≤ (n : ℚ) / d / 2 ^ place) : bound ≤ digitsTo n d place := by
  have hdq : (0 : ℚ) < d := by exact_mod_cast hd
  have hunit : (0 : ℚ) < 2 ^ place := by positivity
  rw [le_div_iff₀ hunit, le_div_iff₀ hdq] at h
  unfold digitsTo
  split_ifs with hplace
  · refine le_roundHalfEven (Nat.mul_pos hd (Nat.pow_pos (by norm_num))) ?_
    rw [← Nat.cast_le (α := ℚ), Nat.cast_mul, Nat.cast_mul, cast_pow_toNat hplace, Nat.cast_ofNat]
    linarith
  · refine le_roundHalfEven hd ?_
    rw [← Nat.cast_le (α := ℚ), Nat.cast_mul, Nat.cast_mul, cast_pow_toNat_neg hplace,
      Nat.cast_ofNat, ← div_eq_mul_inv, le_div_iff₀ hunit]
    linarith

end

/-- The last place that a quotient is rounded to. -/
def lastPlace (n d : ℕ) : ℤ :=
  max (-1074) (floorLog2 n d - 52)

section

variable {n d : ℕ} (hn : 0 < n) (hd : 0 < d)
include hn hd

/-- A rounded quotient has fifty-three digits, or fewer at the least place. -/
theorem digitsTo_lastPlace :
    digitsTo n d (lastPlace n d) ≤ 2 ^ 53 ∧
      (2 ^ 52 ≤ digitsTo n d (lastPlace n d) ∨ lastPlace n d = -1074) := by
  obtain ⟨hlow, hhigh⟩ := floorLog2_spec hn hd
  constructor
  · refine digitsTo_le hd ?_
    have hlt : (n : ℚ) / d < 2 ^ (lastPlace n d + (53 : ℕ)) := by
      refine hhigh.trans_le (zpow_le_zpow_right₀ (by norm_num) ?_)
      unfold lastPlace
      omega
    rw [← not_le, two_pow_le_iff, not_le] at hlt
    exact_mod_cast hlt.le
  · by_cases hleast : lastPlace n d = -1074
    · exact .inr hleast
    · refine .inl (le_digitsTo hd ?_)
      have hplace : floorLog2 n d = lastPlace n d + (52 : ℕ) := by
        unfold lastPlace at hleast ⊢
        omega
      rw [hplace, two_pow_le_iff] at hlow
      exact_mod_cast hlow

/-- The quantity of a rounded quotient that is not too great. -/
theorem quantity_ofRatio (hsmall : (n : ℚ) / d < 2 ^ (1000 : ℤ)) (negative : Bool) :
    (ofRatio negative n d).quantity = digitsTo n d (lastPlace n d) * 2 ^ lastPlace n d := by
  have hlog := floorLog2_lt hn hd hsmall
  obtain ⟨hdigits, hnormal⟩ := digitsTo_lastPlace hn hd
  have hge : -1074 ≤ lastPlace n d := le_max_left _ _
  have hle : lastPlace n d ≤ 970 := by
    unfold lastPlace
    omega
  have hfinite : (lastPlace n d + 1074).toNat * fractionCount + digitsTo n d (lastPlace n d) ≤
      infinityMagnitude := by
    have hmul : (lastPlace n d + 1074).toNat * fractionCount ≤ 2044 * fractionCount :=
      Nat.mul_le_mul_right _ (by omega)
    calc (lastPlace n d + 1074).toNat * fractionCount + digitsTo n d (lastPlace n d)
      _ ≤ 2044 * fractionCount + 2 ^ 53 := Nat.add_le_add hmul hdigits
      _ ≤ infinityMagnitude := by decide
  rw [ofRatio_eq_ofMagnitude hn, ← lastPlace, Nat.min_eq_right hfinite,
    quantity_ofMagnitude negative hge hle hdigits hnormal]

end

theorem quantity_ofRatio_zero (negative : Bool) (d : ℕ) : (ofRatio negative 0 d).quantity = 0 := by
  have hmagnitude : (ofRatio negative 0 d).magnitude = 0 * fractionCount + 0 :=
    (magnitude_ofMagnitude (by decide)).1
  rw [quantity_of_magnitude_eq 0 0 hmagnitude (by decide), if_pos rfl, Nat.cast_zero, zero_mul]

section

variable {n d : ℕ} (hd : 0 < d)
include hd

/-- Rounding does not pass a natural number. -/
theorem quantity_ofRatio_le {bound : ℕ} (hbound : bound < 2 ^ 53) (h : n ≤ bound * d)
    (negative : Bool) : (ofRatio negative n d).quantity ≤ bound := by
  rcases Nat.eq_zero_or_pos n with rfl | hn
  · rw [quantity_ofRatio_zero]
    exact bound.cast_nonneg
  have hdq : (0 : ℚ) < d := by exact_mod_cast hd
  have hle : (n : ℚ) / d ≤ bound := by
    rw [div_le_iff₀ hdq]
    exact_mod_cast h
  have hlt : (n : ℚ) / d < 2 ^ (53 : ℤ) := by
    refine hle.trans_lt ?_
    exact_mod_cast hbound
  have hplace : lastPlace n d ≤ 0 := by
    have := floorLog2_lt hn hd hlt
    unfold lastPlace
    omega
  have hunit : (0 : ℚ) < 2 ^ lastPlace n d := by positivity
  have hsmall : (n : ℚ) / d < 2 ^ (1000 : ℤ) :=
    hlt.trans (zpow_lt_zpow_right₀ (by norm_num) (by norm_num))
  -- the natural number is on the grid of the last place
  have hgrid : ((bound * 2 ^ (-lastPlace n d).toNat : ℕ) : ℚ) * 2 ^ lastPlace n d = bound := by
    rw [Nat.cast_mul, Nat.cast_pow, Nat.cast_ofNat, ← zpow_natCast, Int.toNat_of_nonneg (by omega),
      mul_assoc, ← zpow_add₀ (by norm_num), neg_add_cancel, zpow_zero, mul_one]
  have hdigits : digitsTo n d (lastPlace n d) ≤ bound * 2 ^ (-lastPlace n d).toNat := by
    refine digitsTo_le hd ?_
    rw [div_le_iff₀ hunit, hgrid]
    exact hle
  rw [quantity_ofRatio hn hd hsmall, ← hgrid]
  have hcast : (digitsTo n d (lastPlace n d) : ℚ) ≤ (bound * 2 ^ (-lastPlace n d).toNat : ℕ) := by
    exact_mod_cast hdigits
  gcongr

/-- A quotient that has few binary digits is not changed. -/
theorem quantity_ofRatio_of_dyadic {digits places : ℕ} (hdigits : digits < 2 ^ 53)
    (hplaces : places ≤ 1074) (h : (n : ℚ) / d = digits / 2 ^ places) (negative : Bool) :
    (ofRatio negative n d).quantity = (n : ℚ) / d := by
  rcases Nat.eq_zero_or_pos n with rfl | hn
  · rw [quantity_ofRatio_zero, Nat.cast_zero, zero_div]
  have hdigitsq : (digits : ℚ) < 2 ^ (53 : ℤ) := by exact_mod_cast hdigits
  have hquotient : (n : ℚ) / d = digits * 2 ^ (-(places : ℤ)) := by
    rw [h, zpow_neg, zpow_natCast, div_eq_mul_inv]
  have hlt : (n : ℚ) / d < 2 ^ (53 - (places : ℤ)) := by
    rw [hquotient, sub_eq_add_neg, zpow_add₀ (by norm_num)]
    gcongr
  have hplace : lastPlace n d ≤ -places := by
    have := floorLog2_lt hn hd hlt
    unfold lastPlace
    omega
  have hsmall : (n : ℚ) / d < 2 ^ (1000 : ℤ) :=
    hlt.trans_le (zpow_le_zpow_right₀ (by norm_num) (by omega))
  have hunit : (0 : ℚ) < 2 ^ lastPlace n d := by positivity
  -- the quotient is on the grid of the last place
  obtain ⟨count, hcount⟩ : ∃ count : ℕ, (n : ℚ) / d / 2 ^ lastPlace n d = count := by
    refine ⟨digits * 2 ^ (-places - lastPlace n d).toNat, ?_⟩
    rw [hquotient, mul_div_assoc, ← zpow_sub₀ (by norm_num), Nat.cast_mul, Nat.cast_pow,
      Nat.cast_ofNat, ← zpow_natCast, Int.toNat_of_nonneg (by omega)]
  have hexact : digitsTo n d (lastPlace n d) = count :=
    le_antisymm (digitsTo_le hd hcount.le) (le_digitsTo hd hcount.ge)
  rw [quantity_ofRatio hn hd hsmall, hexact, ← hcount, div_mul_cancel₀ _ hunit.ne']

end

end Patchbay.Binary64
