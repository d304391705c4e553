import Patchbay.Proofs.Number.ReadBack
import Patchbay.Proofs.Results
import Patchbay.Proofs.Value.Codec
import Patchbay.Proofs.Value.FixPoint

/-!
# Texts of values

A value is shown as a text, and the literals of a script are texts.  This file says what the text of
a value is read as under the tag of the value (`valueOfLiteral_text`).  For all but two of the
values that literals are read as, it is the value itself (`reread_eq_self_iff`).  The text of what
is not a number has no sign, and the sign of a zero is lost when it is read as a fix point number.
-/

namespace Patchbay

/-! ## Blanks around a text -/

namespace Text

/-- A text with blanks neither before nor behind it. -/
structure Tight (text : List Char) : Prop where
  first : ∃ c ∈ text.head?, isBlank c = false
  last : ∃ c ∈ text.getLast?, isBlank c = false

theorem tight_of_forall {text : List Char} (hne : text ≠ [])
    (h : ∀ c ∈ text, isBlank c = false) : Tight text := by
  refine ⟨⟨text.head hne, List.head?_eq_some_head hne, ?_⟩,
    ⟨text.getLast hne, List.getLast?_eq_some_getLast hne, ?_⟩⟩
  · exact h _ (List.head_mem hne)
  · exact h _ (List.getLast_mem hne)

theorem tight_enclosed {first last : Char} (hfirst : isBlank first = false)
    (hlast : isBlank last = false) (middle : List Char) : Tight (first :: (middle ++ [last])) := by
  refine ⟨⟨first, rfl, hfirst⟩, ⟨last, ?_, hlast⟩⟩
  rw [← List.cons_append, List.getLast?_concat]
  rfl

theorem dropWhile_of_head? {text : List Char} (h : ∃ c ∈ text.head?, isBlank c = false)
    (more : List Char) : (text ++ more).dropWhile isBlank = text ++ more := by
  obtain ⟨c, hc, hblank⟩ := h
  cases text with
  | nil => cases hc
  | cons d text =>
      cases hc
      rw [List.cons_append, List.dropWhile_cons_of_neg (by rw [hblank]; exact Bool.false_ne_true)]

/-- Trimming takes off the blanks around a text. -/
theorem trim_of_tight {text front back : List Char} (h : Tight text)
    (hfront : ∀ c ∈ front, isBlank c = true) (hback : ∀ c ∈ back, isBlank c = true) :
    trim (front ++ text ++ back) = text := by
  have hlast : ∃ c ∈ text.reverse.head?, isBlank c = false := by
    rw [List.head?_reverse]
    exact h.last
  have hend : trimEnd (front ++ text ++ back) = front ++ text := by
    unfold trimEnd
    rw [List.reverse_append, List.reverse_append,
      List.dropWhile_append_of_pos (fun c hc => hback c (List.mem_reverse.1 hc)),
      dropWhile_of_head? hlast, List.reverse_append, List.reverse_reverse, List.reverse_reverse]
  have hstart := dropWhile_of_head? h.first []
  rw [List.append_nil] at hstart
  rw [trim, hend, trimStart, List.dropWhile_append_of_pos hfront, hstart]

theorem trim_eq_self {text : List Char} (h : Tight text) : trim text = text := by
  have htrim : trim ([] ++ text ++ []) = text := trim_of_tight h (by simp) (by simp)
  rwa [List.nil_append, List.append_nil] at htrim

end Text

/-! ## Integers -/

namespace IntegerReading

open Binary64

/-- Digits are read as their number if 128 bits hold it. -/
theorem digits_eq {negative : Bool} {text : List Char} (htext : AreDigits text) {m : ℕ}
    (hlimit : Nat.ofDigitChars 10 text m ≤ magnitudeLimit negative) :
    digits negative m text = .number
      (if negative then -(Nat.ofDigitChars 10 text m : ℤ) else Nat.ofDigitChars 10 text m) := by
  induction text generalizing m with
  | nil => rfl
  | cons c rest ih =>
      have hdigit : Text.digit? c = some (c.toNat - '0'.toNat) := by
        rw [Text.digit?, if_pos (htext c List.mem_cons_self)]
      rw [Nat.ofDigitChars_cons] at hlimit ⊢
      -- every number on the way is at most the last one
      have hnext : 10 * m + (c.toNat - '0'.toNat) ≤ magnitudeLimit negative := by
        refine Nat.le_trans ?_ hlimit
        rw [Nat.ofDigitChars_eq_ofDigitChars_zero]
        exact Nat.le_add_right_of_le (Nat.le_mul_of_pos_left _ (Nat.pow_pos (by norm_num)))
      rw [digits, hdigit]
      simp only [if_pos hnext]
      exact ih (fun d hd => htext d (List.mem_cons_of_mem c hd)) hlimit

theorem toList_toString (n : ℤ) : (toString n).toList = Layout.integerText n := by
  cases n with
  | ofNat k =>
      have hneg : ¬ (Int.ofNat k < 0) := Int.not_lt.2 (Int.natCast_nonneg k)
      rw [Layout.integerText, if_neg hneg]
      exact Nat.toList_repr
  | negSucc k =>
      have htext : toString (Int.negSucc k) = "-" ++ (k + 1).repr := rfl
      rw [Layout.integerText, if_pos (Int.negSucc_lt_zero k), htext, String.toList_append,
        Nat.toList_repr]
      rfl

theorem ofText_toString {n : ℤ} (h : n.natAbs < 2 ^ 127) :
    ofText (toString n).toList = .number n := by
  have hlimit : Nat.ofDigitChars 10 (Nat.toDigits 10 n.natAbs) 0 ≤
      magnitudeLimit (decide (n < 0)) := by
    have hnext : Nat.pow 2 127 = 2 ^ 127 := rfl
    rw [Nat.ofDigitChars_ten_toDigits, magnitudeLimit]
    split_ifs <;> omega
  have hdigits := digits_eq (areDigits_toDigits n.natAbs) hlimit
  obtain ⟨c, rest, htext⟩ := List.exists_cons_of_ne_nil
    (Nat.toDigits_ne_nil (n := n.natAbs) (b := 10))
  rw [Nat.ofDigitChars_ten_toDigits, htext] at hdigits
  rw [toList_toString, ofText, Layout.takeSign_integerText, htext]
  simp only [hdigits, decide_eq_true_eq]
  congr 1
  split_ifs <;> omega

end IntegerReading

namespace IntegerType

section

variable {type : IntegerType} {n : ℤ} (hleast : type.least ≤ n)
include hleast

theorem text_toValue : (type.toValue n).text = toString n := by
  unfold toValue
  split_ifs with hsigned
  · rfl
  · rw [least, if_neg hsigned] at hleast
    obtain ⟨k, rfl⟩ := Int.eq_ofNat_of_zero_le hleast
    rfl

theorem ofLiteral_text (hgreatest : n ≤ type.greatest) :
    type.ofLiteral (type.toValue n).text.toList = .ok (type.toValue n) := by
  have hsmall : n.natAbs < 2 ^ 127 := by
    obtain ⟨half, hhalf, hmodulus⟩ := type.exists_half
    have hle : type.modulus ≤ 2 ^ 64 := by
      unfold modulus
      cases type.width <;> decide
    unfold least at hleast
    unfold greatest at hgreatest
    split_ifs at hleast hgreatest <;> omega
  have htight : Text.Tight (toString n).toList := by
    rw [IntegerReading.toList_toString]
    refine Text.tight_of_forall ?_ fun c hc => (Layout.solid_integerText n c hc).1
    exact List.append_ne_nil_of_right_ne_nil _ Nat.toDigits_ne_nil
  rw [text_toValue hleast, ofLiteral]
  simp only [Text.trim_eq_self htight, IntegerReading.ofText_toString hsmall,
    if_neg (Int.not_lt.2 hleast), if_neg (Int.not_lt.2 hgreatest)]

end

end IntegerType

/-! ## Numbers -/

namespace Binary64

theorem isNaN_ofDecimal (negative : Bool) (c : ℕ) (e : ℤ) :
    (ofDecimal negative c e).isNaN = false := by
  unfold ofDecimal
  simp only
  split_ifs
  · exact isNaN_ofMagnitude (Nat.zero_le _)
  · exact isNaN_ofMagnitude (Nat.le_refl _)
  · exact isNaN_ofMagnitude (Nat.zero_le _)
  · exact (negative_ofRatio _ _ _).2
  · exact (negative_ofRatio _ _ _).2

/-- What is read as not a number has one of two patterns. -/
theorem eq_nan_of_ofText? {text : List Char} {v : Binary64} (h : ofText? text = some v)
    (hnan : v.isNaN = true) : v = nan false ∨ v = nan true := by
  unfold ofText? at h
  simp only at h
  split_ifs at h
  · cases h
    rw [infinity, isNaN_ofMagnitude (Nat.le_refl _)] at hnan
    cases hnan
  · cases h
    cases (Text.takeSign text).1
    · exact .inl rfl
    · exact .inr rfl
  · unfold ofDigits? at h
    simp only at h
    split_ifs at h
    obtain ⟨e, -, rfl⟩ := Option.map_eq_some_iff.1 h
    rw [isNaN_ofDecimal] at hnan
    cases hnan

theorem ofLiteral_eq {text : List Char} {v : Binary64} (hsolid : ∀ c ∈ text, Solid c)
    (h : ofText? text = some v) : ofLiteral text = .ok v := by
  have hne : text ≠ [] := by
    rintro rfl
    cases h
  have htight : Text.Tight text := Text.tight_of_forall hne fun c hc => (hsolid c hc).1
  rw [ofLiteral, Text.trim_eq_self htight, h]

/-- What the text of a number is read as. -/
def reread (v : Binary64) : Binary64 :=
  if v.isNaN then nan false else v

theorem ofLiteral_text (v : Binary64) :
    ofLiteral (Layout.value.text v).toList = .ok v.reread := by
  refine ofLiteral_eq (Layout.solid_text Layout.legible_value v) ?_
  unfold reread
  by_cases hnan : v.isNaN = true
  · rw [if_pos hnan, Layout.text, if_pos hnan]
    decide
  · rw [if_neg hnan]
    exact Layout.ofText?_text Layout.legible_value (Bool.eq_false_iff.2 hnan)

end Binary64

namespace FixPoint

/-- Zero with the sign bit set. -/
def negativeZero : FixPoint := ⟨0x2000⟩

/-- What the text of a fix point number is read as. -/
def reread (p : FixPoint) : FixPoint :=
  if p = negativeZero then ⟨0⟩ else p

theorem ofLiteral_text {p : FixPoint} (hp : p.bits.toNat < 2 ^ 14) :
    ofLiteral p.text.toList = .ok p.reread := by
  have hread : Binary64.ofLiteral p.text.toList = .ok p.toBinary64 := by
    refine Binary64.ofLiteral_eq (Layout.solid_text Layout.legible_plain _) ?_
    exact Layout.ofText?_text Layout.legible_plain (Binary64.negative_ofRatio _ _ _).2
  have hback : ofBinary64 p.toBinary64 = .ok p.reread := by
    unfold reread
    by_cases hzero : p = negativeZero
    · rw [if_pos hzero, hzero]
      exact ofBinary64_toBinary64_negativeZero
    · rw [if_neg hzero]
      refine ofBinary64_toBinary64 hp ?_
      intro hbits
      exact hzero (congrArg FixPoint.mk hbits)
  rw [ofLiteral, hread]
  exact hback

end FixPoint

/-! ## Values -/

namespace Value

/-- What the text of a value is read as under the tag of the value. -/
def reread : Value → Value
  | double v => double v.reread
  | fixPoint p => fixPoint p.reread
  | value => value

/-- The patterns that literals are read as: of those that are not numbers only two, and fix point
numbers without unused bits. -/
def IsLiteral : Value → Prop
  | double v => v.isNaN = true → v = Binary64.nan false ∨ v = Binary64.nan true
  | fixPoint p => p.bits.toNat < 2 ^ 14
  | _ => True

theorem reread_eq_self_iff {v : Value} (h : v.IsLiteral) :
    v.reread = v ↔ v ≠ double (Binary64.nan true) ∧ v ≠ fixPoint FixPoint.negativeZero := by
  cases v with
  | double v =>
      have hnan : (Binary64.nan true).isNaN = true := by decide
      have hsigns : Binary64.nan false ≠ Binary64.nan true := by decide
      simp only [reread, Binary64.reread, double.injEq, ne_eq, reduceCtorEq, not_false_eq_true,
        and_true]
      split_ifs with hv
      · rcases h hv with rfl | rfl
        · simp [hsigns]
        · simp [hsigns]
      · simp only [true_iff]
        rintro rfl
        exact hv hnan
  | fixPoint p =>
      have hzero : (⟨0⟩ : FixPoint) ≠ FixPoint.negativeZero := by decide
      simp only [reread, FixPoint.reread, fixPoint.injEq, ne_eq, reduceCtorEq, not_false_eq_true,
        true_and]
      split_ifs with hp
      · simp [hp, hzero]
      · simp [hp]
  | unsigned n => simp [reread]
  | signed n => simp [reread]
  | bool b => simp [reread]
  | string s => simp [reread]

end Value

namespace Tag

theorem Holds.tag_eq {tag : Tag} {v : Value} (h : tag.Holds v) :
    (∀ w, v = .double w → tag = .double) ∧ ∀ p, v = .fixPoint p → tag = .fixPoint := by
  cases h with
  | @integer type n hleast hgreatest =>
      unfold IntegerType.toValue
      split_ifs <;> simp
  | bool b => simp
  | double w => simp
  | fixPoint p => simp
  | string travels => simp

theorem isLiteral_of_valueOfLiteral {tag : Tag} {literal : List Char} {v : Value}
    (hholds : tag.Holds v) (h : tag.valueOfLiteral literal = .ok v) : v.IsLiteral := by
  cases hholds with
  | @integer type n hleast hgreatest =>
      unfold IntegerType.toValue
      split_ifs <;> trivial
  | bool b => trivial
  | double w =>
      intro hnan
      obtain ⟨w', hread, hw⟩ := of_map_eq_ok h
      cases hw
      unfold Binary64.ofLiteral at hread
      split at hread
      · next w' htext =>
          cases hread
          exact Binary64.eq_nan_of_ofText? htext hnan
      · cases hread
  | fixPoint p =>
      obtain ⟨p', hread, hp⟩ := of_map_eq_ok h
      cases hp
      obtain ⟨w, -, hw⟩ := of_bind_eq_ok hread
      exact FixPoint.bits_lt_of_ofBinary64 hw
  | string travels => trivial

/-- The text of a value that has a literal is read again under its tag. -/
theorem valueOfLiteral_text {tag : Tag} {v : Value} (hholds : tag.Holds v) (h : v.IsLiteral) :
    tag.valueOfLiteral v.text.toList = .ok v.reread := by
  cases hholds with
  | @integer type n hleast hgreatest =>
      have hreread : (type.toValue n).reread = type.toValue n := by
        unfold IntegerType.toValue
        split_ifs <;> rfl
      rw [hreread]
      exact IntegerType.ofLiteral_text hleast hgreatest
  | bool b => cases b <;> rfl
  | double w => rw [valueOfLiteral, Value.text, Binary64.ofLiteral_text]; rfl
  | fixPoint p => rw [valueOfLiteral, Value.text, FixPoint.ofLiteral_text h]; rfl
  | @string s travels =>
      rw [valueOfLiteral, Value.text, if_pos travels, String.ofList_toList]
      rfl

end Tag

end Patchbay
