import Mathlib.Data.List.TakeWhile
import Patchbay.Number.Layout
import Patchbay.Number.Reading
import Patchbay.Proofs.Number.Shortest
import Patchbay.Text.Blank

/-!
# Numbers are read back from their texts

The text of a finite number shows its shortest decimal, laid out with all places or with an
exponent.  Reading takes such a text as whole part, fraction and exponent, which is another decimal
for the same quantity, and rounds this quantity.  As the shortest decimal lies in the interval of
the number, the result is the number itself, its sign included (`ofText?_text`).
-/

namespace Patchbay

namespace Binary64

/-! ## From a decimal to the number -/

section

variable {v : Binary64}

theorem exponent_le (h : v.IsFinite) : v.exponent ≤ 971 := by
  have hfield : v.exponentField ≤ 2046 := by
    have hlt : v.magnitude / fractionCount < 2047 := Nat.div_lt_of_lt_mul (by rwa [Nat.mul_comm])
    exact Nat.le_of_lt_succ hlt
  unfold exponent
  omega

theorem lt_of_covers (hfinite : v.IsFinite) {x : ℚ} (h : v.Covers x) : x < 10 ^ (310 : ℤ) := by
  have hunit : (0 : ℚ) < 2 ^ v.exponent := by positivity
  have hdigits : (v.significand : ℚ) + 1 ≤ 2 ^ 53 := by exact_mod_cast v.significand_lt
  have hupper := h.near.upper
  rw [div_le_iff₀ hunit] at hupper
  calc x ≤ (v.significand + 1 / 2) * 2 ^ v.exponent := hupper
    _ ≤ 2 ^ 53 * 2 ^ (971 : ℤ) := by
      have hpow : (2 : ℚ) ^ v.exponent ≤ 2 ^ (971 : ℤ) :=
        zpow_le_zpow_right₀ (by norm_num) (exponent_le hfinite)
      have hle : (v.significand : ℚ) + 1 / 2 ≤ 2 ^ 53 := by linarith
      gcongr
    _ < 10 ^ (310 : ℤ) := by
      have hpow : 2 ^ 53 * 2 ^ 971 < 10 ^ 310 := by decide +kernel
      exact_mod_cast hpow

theorem gt_of_covers (hpos : 0 < v.significand) {x : ℚ} (h : v.Covers x) :
    (10 : ℚ) ^ (-331 : ℤ) < x := by
  have hunit : (0 : ℚ) < 2 ^ v.exponent := by positivity
  have hdigits : (1 : ℚ) ≤ v.significand := by exact_mod_cast hpos
  have hlower := h.near.lower
  rw [le_div_iff₀ hunit] at hlower
  have hleast : (10 : ℚ) ^ (-331 : ℤ) < 1 / 2 * 2 ^ (-1074 : ℤ) := by
    have hpow : 2 * 2 ^ 1074 < 10 ^ 331 := by decide +kernel
    have hpow' : (2 : ℚ) * 2 ^ (1074 : ℤ) < 10 ^ (331 : ℤ) := by exact_mod_cast hpow
    rw [zpow_neg, zpow_neg, one_div, ← mul_inv]
    exact inv_strictAnti₀ (by positivity) hpow'
  calc (10 : ℚ) ^ (-331 : ℤ) < 1 / 2 * 2 ^ (-1074 : ℤ) := hleast
    _ ≤ (v.significand - 1 / 2) * 2 ^ v.exponent := by
      have hpow : (2 : ℚ) ^ (-1074 : ℤ) ≤ 2 ^ v.exponent :=
        zpow_le_zpow_right₀ (by norm_num) v.exponent_ge
      have hle : (1 / 2 : ℚ) ≤ v.significand - 1 / 2 := by linarith
      gcongr
    _ ≤ x := hlower

end

/-- The number of digits tells the size of a decimal. -/
theorem length_toDigits_spec {c : ℕ} (hc : 0 < c) :
    (10 : ℚ) ^ ((Nat.toDigits 10 c).length - 1 : ℤ) ≤ c ∧
      (c : ℚ) < 10 ^ ((Nat.toDigits 10 c).length : ℤ) := by
  have hpos : 0 < (Nat.toDigits 10 c).length := Nat.length_toDigits_pos
  constructor
  · obtain ⟨k, hk⟩ := Nat.exists_eq_succ_of_ne_zero hpos.ne'
    rw [hk, Nat.cast_succ, add_sub_cancel_right, zpow_natCast]
    rcases Nat.eq_zero_or_pos k with rfl | hkpos
    · exact_mod_cast hc
    · have hle : ¬ (Nat.toDigits 10 c).length ≤ k := by omega
      rw [Nat.length_toDigits_le_iff (by norm_num) hkpos] at hle
      exact_mod_cast Nat.not_lt.1 hle
  · rw [zpow_natCast]
    exact_mod_cast (Nat.length_toDigits_le_iff (by norm_num) hpos).1 (Nat.le_refl _)

/-- A decimal in the interval of a number is rounded to it; the shortcuts for great and for small
decimals do not apply. -/
theorem ofDecimal_of_covers {v : Binary64} (hfinite : v.IsFinite) (hpos : 0 < v.significand) {c : ℕ}
    {e : ℤ} (h : v.Covers ((c : ℚ) * 10 ^ e)) : ofDecimal v.negative c e = v := by
  have hupper := lt_of_covers hfinite h
  have hlower := gt_of_covers hpos h
  have hc : 0 < c := by
    rcases Nat.eq_zero_or_pos c with rfl | hc
    · rw [Nat.cast_zero, zero_mul] at hlower
      have : (0 : ℚ) < 10 ^ (-331 : ℤ) := by positivity
      linarith
    · exact hc
  have hten : (1 : ℚ) < 10 := by norm_num
  obtain ⟨hdigits, hdigits'⟩ := length_toDigits_spec hc
  have hplace : (0 : ℚ) < 10 ^ e := by positivity
  unfold ofDecimal
  simp only
  generalize (Nat.toDigits 10 c).length = size at hdigits hdigits'
  -- the decimal is between `10 ^ (size - 1 + e)` and `10 ^ (size + e)`, off both shortcuts
  have hbelow : ¬ 310 < e + size := by
    have hlt : (10 : ℚ) ^ (size - 1 + e : ℤ) < 10 ^ (310 : ℤ) := by
      rw [zpow_add₀ (by norm_num)]
      exact (mul_le_mul_of_nonneg_right hdigits hplace.le).trans_lt hupper
    have := (zpow_lt_zpow_iff_right₀ hten).1 hlt
    omega
  have habove : ¬ e + size < -330 := by
    have hlt : (10 : ℚ) ^ (-331 : ℤ) < 10 ^ (size + e : ℤ) := by
      rw [zpow_add₀ (by norm_num)]
      exact hlower.trans (mul_lt_mul_of_pos_right hdigits' hplace)
    have := (zpow_lt_zpow_iff_right₀ hten).1 hlt
    omega
  rw [if_neg (by rw [beq_iff_eq]; omega), if_neg hbelow, if_neg habove]
  split_ifs with hexponent
  · refine ofRatio_of_covers hfinite (Nat.mul_pos hc (Nat.pow_pos (by norm_num))) Nat.one_pos ?_
    rwa [Nat.cast_mul, cast_pow_toNat hexponent, Nat.cast_ofNat, Nat.cast_one, div_one]
  · refine ofRatio_of_covers hfinite hc (Nat.pow_pos (by norm_num)) ?_
    rwa [cast_pow_toNat_neg hexponent, Nat.cast_ofNat, div_inv_eq_mul]

/-! ## Taking a text apart -/

def AreDigits (text : List Char) : Prop :=
  ∀ c ∈ text, c.isDigit = true

theorem AreDigits.append {text more : List Char} (h : AreDigits text) (h' : AreDigits more) :
    AreDigits (text ++ more) := by
  intro c hc
  rcases List.mem_append.1 hc with hc | hc
  · exact h c hc
  · exact h' c hc

theorem areDigits_replicate (n : ℕ) : AreDigits (List.replicate n '0') := by
  intro c hc
  rw [List.eq_of_mem_replicate hc]
  rfl

theorem areDigits_toDigits (n : ℕ) : AreDigits (Nat.toDigits 10 n) := by
  intro c hc
  exact Nat.isDigit_of_mem_toDigits (by norm_num) (by norm_num) hc

/-- A fraction behind its point, or nothing. -/
def pointed : List Char → List Char
  | [] => []
  | d :: more => '.' :: d :: more

/-- The text of an exponent behind its mark, or nothing. -/
def marked : Option (List Char) → List Char
  | none => []
  | some exponent => 'e' :: exponent

/-- The exponent of a text; without a mark it is 0. -/
def exponentOf? : Option (List Char) → Option ℤ
  | none => some 0
  | some exponent => exponentOfText? exponent

theorem span_digits {text rest : List Char} (h : AreDigits text)
    (hrest : ∀ c ∈ rest.head?, c.isDigit = false) :
    (text ++ rest).takeWhile Char.isDigit = text ∧
      (text ++ rest).dropWhile Char.isDigit = rest := by
  rw [List.takeWhile_append_of_pos h, List.dropWhile_append_of_pos h]
  cases rest with
  | nil => simp
  | cons c rest =>
      have hc : ¬ c.isDigit = true := Bool.eq_false_iff.1 (hrest c rfl)
      rw [List.takeWhile_cons_of_neg hc, List.dropWhile_cons_of_neg hc, List.append_nil]
      exact ⟨rfl, rfl⟩

/-- The parts of a text are found again by reading. -/
theorem ofDigits?_eq {whole fraction : List Char} (hwhole : AreDigits whole)
    (hne : whole ≠ []) (hfraction : AreDigits fraction) (exponent : Option (List Char))
    (negative : Bool) :
    ofDigits? negative (whole ++ (pointed fraction ++ marked exponent)) =
      (exponentOf? exponent).map fun e =>
        ofDecimal negative (Nat.ofDigitChars 10 (whole ++ fraction) 0) (e - fraction.length) := by
  have hmark : ∀ c ∈ (marked exponent).head?, c.isDigit = false := by
    cases exponent with
    | none => simp [marked]
    | some exponent => simp [marked]
  have hsome : whole.isEmpty = false := List.isEmpty_eq_false_iff.2 hne
  -- what ends the whole part is the point, or without a fraction the mark of the exponent
  cases fraction with
  | nil =>
    obtain ⟨htake, hdrop⟩ := span_digits hwhole hmark
    rw [pointed, List.nil_append, ofDigits?]
    simp only [htake, hdrop]
    cases exponent with
    | none => simp [marked, exponentOf?, hsome]
    | some exponent => simp [marked, exponentOf?, hsome]
  | cons d fraction =>
    have htext : pointed (d :: fraction) ++ marked exponent =
        '.' :: (d :: fraction ++ marked exponent) := rfl
    have hpoint : ∀ c ∈ ('.' :: (d :: fraction ++ marked exponent)).head?, c.isDigit = false := by
      simp
    obtain ⟨htake, hdrop⟩ := span_digits hwhole hpoint
    obtain ⟨htake', hdrop'⟩ := span_digits hfraction hmark
    rw [htext, ofDigits?]
    simp only [htake, hdrop, htake', hdrop', hsome, Bool.false_and]
    cases exponent with
    | none => simp [marked, exponentOf?]
    | some exponent => simp [marked, exponentOf?]

/-- Characters that are neither trimmed nor taken for the sign of an assignment. -/
def Solid (c : Char) : Prop :=
  Text.isBlank c = false ∧ c ≠ '='

theorem solid_of_isDigit {c : Char} (h : c.isDigit = true) : Solid c := by
  have hrange : 48 ≤ c.toNat ∧ c.toNat ≤ 57 := by
    simpa [Char.isDigit, UInt32.le_iff_toNat_le] using h
  refine ⟨?_, ?_⟩
  · simp only [Text.isBlank, Bool.or_eq_false_iff, Bool.and_eq_false_iff, decide_eq_false_iff_not,
      beq_eq_false_iff_ne]
    omega
  · rintro rfl
    exact absurd h (by decide)

/-- A text that begins with a digit and is read as the number `x`. -/
structure Numeral (text : List Char) (x : ℚ) : Prop where
  begins : ∃ first rest, text = first :: rest ∧ first.isDigit = true
  solid : ∀ c ∈ text, Solid c
  reads : ∀ negative, ∃ c e, ofDigits? negative text = some (ofDecimal negative c e) ∧
    (c : ℚ) * 10 ^ e = x

theorem numeral_of_parts {whole fraction : List Char} (hwhole : AreDigits whole)
    (hne : whole ≠ []) (hfraction : AreDigits fraction) {exponent : Option (List Char)} {k : ℤ}
    (hexponent : exponentOf? exponent = some k) (hsolid : ∀ text ∈ exponent, ∀ c ∈ text, Solid c) :
    Numeral (whole ++ (pointed fraction ++ marked exponent))
      (Nat.ofDigitChars 10 (whole ++ fraction) 0 * 10 ^ (k - fraction.length)) := by
  refine ⟨?_, ?_, ?_⟩
  · obtain ⟨first, rest, rfl⟩ := List.exists_cons_of_ne_nil hne
    exact ⟨first, _, rfl, hwhole first List.mem_cons_self⟩
  · intro c hc
    rcases List.mem_append.1 hc with hc | hc
    · exact solid_of_isDigit (hwhole c hc)
    · rcases List.mem_append.1 hc with hc | hc
      · cases fraction with
        | nil => cases hc
        | cons d fraction =>
            rcases List.mem_cons.1 hc with rfl | hc
            · exact ⟨by decide, by decide⟩
            · exact solid_of_isDigit (hfraction c hc)
      · cases exponent with
        | none => cases hc
        | some text =>
            rcases List.mem_cons.1 hc with rfl | hc
            · exact ⟨by decide, by decide⟩
            · exact hsolid text rfl c hc
  · intro negative
    refine ⟨_, _, ?_, rfl⟩
    rw [ofDigits?_eq hwhole hne hfraction, hexponent]
    rfl

end Binary64

namespace Layout

open Binary64

/-! ## Layouts -/

theorem pointed_of_ne_nil {fraction : List Char} (h : fraction ≠ []) :
    pointed fraction = '.' :: fraction := by
  obtain ⟨d, more, rfl⟩ := List.exists_cons_of_ne_nil h
  rfl

theorem numeral_of_fraction {whole fraction : List Char} (hwhole : AreDigits whole)
    (hne : whole ≠ []) (hfraction : AreDigits fraction) :
    Numeral (whole ++ pointed fraction)
      (Nat.ofDigitChars 10 (whole ++ fraction) 0 * 10 ^ (-(fraction.length : ℤ))) := by
  have hmark : exponentOf? none = some 0 := rfl
  have h := numeral_of_parts hwhole hne hfraction hmark (by simp)
  rwa [marked, List.append_nil, zero_sub] at h

section

variable {digits : List Char} (hdigits : AreDigits digits) (hne : digits ≠ [])
include hdigits hne

theorem numeral_below_one {first : ℤ} (hfirst : first < 0) :
    Numeral (['0', '.'] ++ List.replicate (-first - 1).toNat '0' ++ digits)
      (Nat.ofDigitChars 10 digits 0 * 10 ^ (first + 1 - digits.length)) := by
  have hfraction : AreDigits (List.replicate (-first - 1).toNat '0' ++ digits) :=
    (areDigits_replicate _).append hdigits
  have hpointed := pointed_of_ne_nil (List.append_ne_nil_of_right_ne_nil
    (List.replicate (-first - 1).toNat '0') hne)
  have hvalue : Nat.ofDigitChars 10 (['0'] ++ (List.replicate (-first - 1).toNat '0' ++ digits)) 0 =
      Nat.ofDigitChars 10 digits 0 := by
    rw [Nat.ofDigitChars_append, Nat.ofDigitChars_append, Nat.ofDigitChars_replicate_zero]
    rfl
  have hplaces : -((List.replicate (-first - 1).toNat '0' ++ digits).length : ℤ) =
      first + 1 - digits.length := by
    rw [List.length_append, List.length_replicate]
    omega
  have h := numeral_of_fraction (areDigits_replicate 1) (by simp) hfraction
  rw [hpointed] at h
  rw [← hplaces, ← hvalue]
  exact h

/-- The digits end before the point. -/
theorem numeral_of_whole {first : ℤ} (hfirst : 0 ≤ first)
    (hlength : digits.length ≤ first.toNat + 1) (keepsPlace : Bool) :
    Numeral (digits ++ List.replicate (first.toNat + 1 - digits.length) '0' ++
        (if keepsPlace then ['.', '0'] else []))
      (Nat.ofDigitChars 10 digits 0 * 10 ^ (first + 1 - digits.length)) := by
  generalize hzeros : first.toNat + 1 - digits.length = zeros
  have hwhole : AreDigits (digits ++ List.replicate zeros '0') :=
    hdigits.append (areDigits_replicate zeros)
  have hplaces : first + 1 - digits.length = (zeros : ℤ) := by omega
  have hvalue : (Nat.ofDigitChars 10 (digits ++ List.replicate zeros '0') 0 : ℚ) =
      Nat.ofDigitChars 10 digits 0 * 10 ^ zeros := by
    rw [Nat.ofDigitChars_append, Nat.ofDigitChars_replicate_zero, Nat.cast_mul, Nat.cast_pow,
      Nat.cast_ofNat, mul_comm]
  rw [hplaces, zpow_natCast, ← hvalue]
  cases keepsPlace with
  | true =>
      have h := numeral_of_fraction hwhole (by simp [hne]) (areDigits_replicate 1)
      have hshift : (Nat.ofDigitChars 10 (digits ++ List.replicate zeros '0' ++ ['0']) 0 : ℚ) *
          10 ^ (-1 : ℤ) = Nat.ofDigitChars 10 (digits ++ List.replicate zeros '0') 0 := by
        rw [Nat.ofDigitChars_append]
        simp [Nat.ofDigitChars_cons]
        field_simp
      rw [← hshift]
      exact h
  | false =>
      have h := numeral_of_fraction hwhole (by simp [hne]) (areDigits_replicate 0)
      simpa [pointed] using h

/-- The point stands between the digits. -/
theorem numeral_of_point {first : ℤ} (hfirst : 0 ≤ first)
    (hlength : ¬ digits.length ≤ first.toNat + 1) :
    Numeral (digits.take (first.toNat + 1) ++ ['.'] ++ digits.drop (first.toNat + 1))
      (Nat.ofDigitChars 10 digits 0 * 10 ^ (first + 1 - digits.length)) := by
  have hplaces : -((digits.drop (first.toNat + 1)).length : ℤ) = first + 1 - digits.length := by
    rw [List.length_drop]
    omega
  have hwhole : AreDigits (digits.take (first.toNat + 1)) :=
    fun c hc => hdigits c (List.mem_of_mem_take hc)
  have hfraction : AreDigits (digits.drop (first.toNat + 1)) :=
    fun c hc => hdigits c (List.mem_of_mem_drop hc)
  have hdrop : digits.drop (first.toNat + 1) ≠ [] := by
    rw [ne_eq, List.drop_eq_nil_iff]
    exact hlength
  have h := numeral_of_fraction hwhole (by simp [hne]) hfraction
  rw [List.take_append_drop, pointed_of_ne_nil hdrop, hplaces] at h
  rw [List.append_assoc]
  exact h

end

theorem numeral_placesText (keepsPlace : Bool) {digits : List Char} (hdigits : AreDigits digits)
    (hne : digits ≠ []) (first : ℤ) :
    Numeral (placesText keepsPlace digits first)
      (Nat.ofDigitChars 10 digits 0 * 10 ^ (first + 1 - digits.length)) := by
  unfold placesText
  by_cases hbelow : first < 0
  · rw [if_pos hbelow]
    exact numeral_below_one hdigits hne hbelow
  · rw [if_neg hbelow]
    by_cases hwhole : digits.length ≤ first.toNat + 1
    · simp only [if_pos hwhole]
      exact numeral_of_whole hdigits hne (not_lt.1 hbelow) hwhole keepsPlace
    · simp only [if_neg hwhole]
      exact numeral_of_point hdigits hne (not_lt.1 hbelow) hwhole

theorem takeSign_of_ne {first : Char} (hminus : first ≠ '-') (hplus : first ≠ '+')
    (rest : List Char) : Text.takeSign (first :: rest) = (false, first :: rest) := by
  unfold Text.takeSign
  split
  · next heq => exact absurd (List.cons.inj heq).1 hminus
  · next heq => exact absurd (List.cons.inj heq).1 hplus
  · rfl

/-- A minus before a digit is taken off as a sign, and nothing else is. -/
theorem takeSign_signed {first : Char} (h : first.isDigit = true) (negative : Bool)
    (rest : List Char) :
    Text.takeSign ((if negative then ['-'] else []) ++ first :: rest) =
      (negative, first :: rest) := by
  cases negative with
  | true => rfl
  | false =>
      have hne : ∀ c, c.isDigit = false → first ≠ c := by
        rintro c hc rfl
        rw [h] at hc
        cases hc
      exact takeSign_of_ne (hne '-' rfl) (hne '+' rfl) rest

/-- The digits of an integer, with a sign only if it is negative. -/
def integerText (n : ℤ) : List Char :=
  (if n < 0 then ['-'] else []) ++ Nat.toDigits 10 n.natAbs

theorem takeSign_integerText (n : ℤ) :
    Text.takeSign (integerText n) = (decide (n < 0), Nat.toDigits 10 n.natAbs) := by
  obtain ⟨c, rest, htext⟩ := List.exists_cons_of_ne_nil
    (Nat.toDigits_ne_nil (n := n.natAbs) (b := 10))
  have hc := areDigits_toDigits n.natAbs c (by rw [htext]; exact List.mem_cons_self)
  rw [integerText, htext, ← takeSign_signed hc (decide (n < 0)) rest]
  simp only [decide_eq_true_eq]

theorem solid_integerText (n : ℤ) : ∀ c ∈ integerText n, Solid c := by
  intro c hc
  rcases List.mem_append.1 hc with hc | hc
  · split_ifs at hc
    · rw [List.mem_singleton.1 hc]
      exact ⟨by decide, by decide⟩
    · cases hc
  · exact solid_of_isDigit (areDigits_toDigits _ c hc)

theorem exponentOf?_integerText (n : ℤ) : exponentOf? (some (integerText n)) = some n := by
  have hdigits : (Nat.toDigits 10 n.natAbs).all Char.isDigit = true :=
    List.all_eq_true.2 (areDigits_toDigits _)
  have hne : (Nat.toDigits 10 n.natAbs).isEmpty = false :=
    List.isEmpty_eq_false_iff.2 Nat.toDigits_ne_nil
  rw [exponentOf?, exponentOfText?]
  simp only [takeSign_integerText, hne, hdigits, Bool.not_true, Bool.or_false, Bool.false_eq_true,
    if_false, Nat.ofDigitChars_ten_toDigits, decide_eq_true_eq]
  congr 1
  split_ifs <;> omega

theorem numeral_exponentText {digits : List Char} (hdigits : AreDigits digits)
    (hne : digits ≠ []) (first : ℤ) :
    Numeral (exponentText "" digits first)
      (Nat.ofDigitChars 10 digits 0 * 10 ^ (first + 1 - digits.length)) := by
  obtain ⟨d, others, rfl⟩ := List.exists_cons_of_ne_nil hne
  have hfirst : AreDigits [d] := by
    intro c hc
    exact hdigits c (List.mem_of_mem_head? (by rw [List.mem_singleton.1 hc]; rfl))
  have hothers : AreDigits others := fun c hc => hdigits c (List.mem_cons_of_mem d hc)
  have h := numeral_of_parts hfirst (by simp) hothers (exponentOf?_integerText first)
    (by rintro text ⟨⟩; exact solid_integerText first)
  have hplaces : first - others.length = first + 1 - ((d :: others).length : ℤ) := by
    rw [List.length_cons]
    omega
  have htext : exponentText "" (d :: others) first = [d] ++
      (pointed others ++ marked (some (integerText first))) := by
    unfold exponentText
    cases others <;> simp [pointed, marked, integerText]
  rw [htext, ← hplaces]
  exact h

/-- Only zeros are left out at the end of the digits. -/
theorem toDigits_eq_significantDigits (c : ℕ) :
    ∃ zeros, Nat.toDigits 10 c = significantDigits c ++ List.replicate zeros '0' := by
  refine ⟨((Nat.toDigits 10 c).reverse.takeWhile (· == '0')).length, ?_⟩
  have hzeros : ((Nat.toDigits 10 c).reverse.takeWhile (· == '0')).reverse =
      List.replicate ((Nat.toDigits 10 c).reverse.takeWhile (· == '0')).length '0' := by
    refine List.eq_replicate_iff.2 ⟨List.length_reverse, ?_⟩
    intro d hd
    have hzero := List.mem_takeWhile_imp (List.mem_reverse.1 hd)
    exact eq_of_beq hzero
  rw [significantDigits, ← hzeros, ← List.reverse_append, List.takeWhile_append_dropWhile,
    List.reverse_reverse]

theorem numeral_zero (keepsPlace : Bool) :
    Numeral (if keepsPlace then ['0', '.', '0'] else ['0']) 0 := by
  have h := numeral_of_whole (areDigits_replicate 1) (by simp) (Int.le_refl 0) (by simp) keepsPlace
  have hvalue : (Nat.ofDigitChars 10 (List.replicate 1 '0') 0 : ℚ) = 0 := by
    rw [Nat.ofDigitChars_replicate_zero, Nat.mul_zero, Nat.cast_zero]
  rw [hvalue, zero_mul] at h
  cases keepsPlace <;> exact h

section

variable {c : ℕ} (hc : c ≠ 0)
include hc

theorem significantDigits_ne_nil : significantDigits c ≠ [] := by
  intro hempty
  obtain ⟨zeros, hdigits⟩ := toDigits_eq_significantDigits c
  have hvalue := Nat.ofDigitChars_ten_toDigits (n := c)
  rw [hdigits, hempty, List.nil_append, Nat.ofDigitChars_replicate_zero] at hvalue
  exact hc hvalue.symm

omit hc in
theorem areDigits_significantDigits : AreDigits (significantDigits c) := by
  obtain ⟨zeros, hdigits⟩ := toDigits_eq_significantDigits c
  intro d hd
  refine areDigits_toDigits c d ?_
  rw [hdigits]
  exact List.mem_append_left _ hd

omit hc in
/-- The number that the digits stand for, when the place of the first of them is known. -/
theorem amount_eq (e : ℤ) :
    Decimal.amount ⟨c, e⟩ = Nat.ofDigitChars 10 (significantDigits c) 0 *
      10 ^ (e + (Nat.toDigits 10 c).length - 1 + 1 - (significantDigits c).length) := by
  obtain ⟨zeros, hdigits⟩ := toDigits_eq_significantDigits c
  have hvalue : c = 10 ^ zeros * Nat.ofDigitChars 10 (significantDigits c) 0 := by
    have h := Nat.ofDigitChars_ten_toDigits (n := c)
    rw [hdigits, Nat.ofDigitChars_append, Nat.ofDigitChars_replicate_zero] at h
    exact h.symm
  have hplaces : e + (Nat.toDigits 10 c).length - 1 + 1 - (significantDigits c).length =
      (zeros : ℤ) + e := by
    rw [hdigits, List.length_append, List.length_replicate]
    push_cast
    ring
  have hcast : (c : ℚ) = 10 ^ zeros * Nat.ofDigitChars 10 (significantDigits c) 0 := by
    exact_mod_cast hvalue
  rw [hplaces, zpow_add₀ (by norm_num), zpow_natCast, ← mul_assoc, mul_comm _ (10 ^ zeros), ← hcast,
    Decimal.amount]

end

/-- The layouts whose texts can be read: exponents without a plus, and the words for the values
without digits. -/
structure Legible (layout : Layout) : Prop where
  exponentSign : layout.exponentSign = ""
  notANumber : layout.notANumber = "NaN"
  infinite : layout.infinite = fun negative => if negative then "-inf" else "inf"

theorem legible_value : Legible value := ⟨rfl, rfl, rfl⟩

theorem legible_plain : Legible plain := ⟨rfl, rfl, rfl⟩

theorem numeral_decimalText {layout : Layout} (h : layout.Legible) (d : Decimal) :
    Numeral (layout.decimalText d) d.amount := by
  obtain ⟨c, e⟩ := d
  unfold decimalText
  by_cases hzero : c = 0
  · have hamount : Decimal.amount ⟨c, e⟩ = 0 := by
      rw [Decimal.amount, hzero, Nat.cast_zero, zero_mul]
    simp only [if_pos (beq_iff_eq.2 hzero), hamount]
    exact numeral_zero layout.keepsPlace
  · have hne := significantDigits_ne_nil hzero
    simp only [if_neg (fun h => hzero (eq_of_beq h)), amount_eq]
    split_ifs
    · exact numeral_placesText layout.keepsPlace areDigits_significantDigits hne _
    · rw [h.exponentSign]
      exact numeral_exponentText areDigits_significantDigits hne _

/-! ## Reading back -/

theorem toLower_of_isDigit {c : Char} (h : c.isDigit = true) : c.toLower = c := by
  have hrange : 48 ≤ c.toNat ∧ c.toNat ≤ 57 := by
    simpa [Char.isDigit, UInt32.le_iff_toNat_le] using h
  have hupper : ¬ (c.val ≥ 'A'.val ∧ c.val ≤ 'Z'.val) := by
    rintro ⟨hge, -⟩
    have hge' : 65 ≤ c.toNat := UInt32.le_iff_toNat_le.1 hge
    omega
  unfold Char.toLower
  rw [dif_neg hupper]

theorem ofText?_of_numeral {text : List Char} {x : ℚ} (h : Numeral text x) (negative : Bool) :
    ofText? ((if negative then ['-'] else []) ++ text) = ofDigits? negative text := by
  obtain ⟨first, rest, rfl, hfirst⟩ := h.begins
  have hword : ∀ letter word, letter.isDigit = false →
      ((first :: rest).map Char.toLower == letter :: word) = false := by
    intro letter word hletter
    rw [List.map_cons, toLower_of_isDigit hfirst, beq_eq_false_iff_ne]
    intro heq
    rw [(List.cons.inj heq).1, hletter] at hfirst
    cases hfirst
  have hinf : ((first :: rest).map Char.toLower == "inf".toList) = false := hword 'i' _ rfl
  have hinfinity : ((first :: rest).map Char.toLower == "infinity".toList) = false :=
    hword 'i' _ rfl
  have hnan : ((first :: rest).map Char.toLower == "nan".toList) = false := hword 'n' _ rfl
  rw [ofText?, takeSign_signed hfirst]
  simp only [hinf, hinfinity, hnan, Bool.or_false, Bool.false_eq_true, if_false]

/-- The parts that the text of a value is made of. -/
theorem text_eq {layout : Layout} (h : layout.Legible) (v : Binary64) :
    (v.isNaN = true ∧ (layout.text v).toList = "NaN".toList) ∨
      (v = infinity v.negative ∧
        (layout.text v).toList = (if v.negative then "-inf" else "inf").toList) ∨
      (v.IsFinite ∧ (layout.text v).toList = (if v.negative then ['-'] else []) ++
        layout.decimalText (Decimal.shortest layout.tie v)) := by
  unfold text
  by_cases hnan : v.isNaN = true
  · rw [if_pos hnan, h.notANumber]
    exact .inl ⟨hnan, rfl⟩
  · rw [if_neg hnan]
    by_cases hinf : v.isInfinite = true
    · rw [if_pos hinf, h.infinite]
      refine .inr (.inl ⟨?_, rfl⟩)
      rw [infinity, ← eq_of_beq hinf, ofMagnitude_magnitude]
    · rw [if_neg hinf]
      refine .inr (.inr ⟨?_, by rw [String.toList_ofList]⟩)
      have hle : ¬ infinityMagnitude < v.magnitude := by simpa [isNaN] using hnan
      have hne : v.magnitude ≠ infinityMagnitude := by simpa [isInfinite] using hinf
      unfold IsFinite
      omega

theorem solid_text {layout : Layout} (h : layout.Legible) (v : Binary64) :
    ∀ c ∈ (layout.text v).toList, Solid c := by
  have hwords : ∀ c ∈ "NaN".toList ++ "-inf".toList, Solid c := by
    have hall : ("NaN".toList ++ "-inf".toList).all
        (fun c => !Text.isBlank c && c != '=') = true := by
      decide
    intro c hc
    simpa [Solid] using List.all_eq_true.1 hall c hc
  intro c hc
  rcases text_eq h v with ⟨-, htext⟩ | ⟨-, htext⟩ | ⟨-, htext⟩
  · rw [htext] at hc
    exact hwords c (List.mem_append_left _ hc)
  · rw [htext] at hc
    refine hwords c (List.mem_append_right _ ?_)
    split_ifs at hc
    · exact hc
    · exact List.mem_cons_of_mem '-' hc
  · rw [htext] at hc
    rcases List.mem_append.1 hc with hc | hc
    · split_ifs at hc
      · rw [List.mem_singleton.1 hc]
        exact ⟨by decide, by decide⟩
      · cases hc
    · exact (numeral_decimalText h _).solid c hc

/-- The text of a number is read as the number. -/
theorem ofText?_text {layout : Layout} (h : layout.Legible) {v : Binary64} (hv : v.isNaN = false) :
    ofText? (layout.text v).toList = some v := by
  have hinfinity : ∀ negative, ofText? (if negative then "-inf" else "inf").toList =
      some (infinity negative) := by
    decide
  rcases text_eq h v with ⟨hnan, -⟩ | ⟨hinf, htext⟩ | ⟨hfinite, htext⟩
  · rw [hv] at hnan
    cases hnan
  · rw [htext, hinfinity, ← hinf]
  · rw [htext]
    have hnumeral := numeral_decimalText h (Decimal.shortest layout.tie v)
    obtain ⟨c, e, hreads, hamount⟩ := hnumeral.reads v.negative
    rw [ofText?_of_numeral hnumeral, hreads]
    by_cases hzero : v.magnitude = 0
    · have hshortest : (Decimal.shortest layout.tie v).amount = 0 := by
        simp [Decimal.shortest, hzero, Decimal.amount]
      have hc : c = 0 := by
        rw [hshortest, mul_eq_zero] at hamount
        rcases hamount with hc | hpow
        · exact_mod_cast hc
        · exact absurd hpow (by positivity)
      rw [hc, ofDecimal, if_pos (by rfl), zero, ← hzero, ofMagnitude_magnitude]
    · have hcovers := Decimal.covers_shortest layout.tie hzero
      rw [← hamount] at hcovers
      rw [ofDecimal_of_covers hfinite (Decimal.significand_pos hzero) hcovers]

end Layout

end Patchbay
