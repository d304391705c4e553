import Mathlib.Tactic.SplitIfs
import Patchbay.Text.Utf8

/-!
# Reading back what was encoded

`decode?_encode` says that the strict reader gives back every text from its bytes, and
`encode_of_decode?` that it accepts no other bytes.  The reader goes step by step, so the work is in
`step_encodeChar`: a step at the front of an encoded character finds that character and covers
exactly its bytes, whatever follows.  `encodeChar_of_step` is the other direction: the bytes that a
step covers are those of the character it finds.

The other facts are about bytes below 128.  Such a byte stands in an encoding only for the
character with the same number, which is why a text can be cut at line feeds before or after it is
encoded.
-/

namespace Patchbay.Utf8

/-! ## One character -/

private theorem toNat_ofNat_of_lt {n : Nat} (h : n < 0x100) : (UInt8.ofNat n).toNat = n := by
  rw [UInt8.toNat_ofNat', Nat.mod_eq_of_lt h]

private theorem continues_ofNat {n : Nat} (h : n < 0x40) :
    continues (UInt8.ofNat (0x80 + n)) = true := by
  unfold continues
  simp only [Bool.and_eq_true, decide_eq_true_eq, UInt8.le_iff_toNat_le,
    toNat_ofNat_of_lt (show 0x80 + n < 0x100 by omega), UInt8.reduceToNat]
  omega

private theorem payload_ofNat {n : Nat} (h : n < 0x40) : payload (UInt8.ofNat (0x80 + n)) = n := by
  unfold payload
  rw [toNat_ofNat_of_lt (by omega)]
  omega

/-- The second byte of an encoded character is one that its lead byte allows. -/
private theorem secondAllowed_ofNat {lead second : Nat} (hlead : lead < 0x100)
    (hsecond : second < 0x40) (hE0 : lead = 0xE0 → 0x20 ≤ second)
    (hED : lead = 0xED → second < 0x20) (hF0 : lead = 0xF0 → 0x10 ≤ second)
    (hF4 : lead = 0xF4 → second < 0x10) :
    secondAllowed (UInt8.ofNat lead) (UInt8.ofNat (0x80 + second)) = true := by
  have hbyte : ∀ byte : UInt8, (UInt8.ofNat lead == byte) = true ↔ lead = byte.toNat := by
    intro byte
    rw [beq_iff_eq, ← UInt8.toNat_inj, toNat_ofNat_of_lt hlead]
  have hnat : (UInt8.ofNat (0x80 + second)).toNat = 0x80 + second :=
    toNat_ofNat_of_lt (by omega)
  unfold secondAllowed continues
  simp only [hbyte, UInt8.le_iff_toNat_le, hnat, UInt8.reduceToNat]
  split_ifs <;> simp only [Bool.and_eq_true, decide_eq_true_eq] <;> omega

/-- The numbers of characters leave out the surrogates and end at U+10FFFF. -/
private theorem toNat_valid (c : Char) :
    c.toNat < 0xD800 ∨ (0xDFFF < c.toNat ∧ c.toNat < 0x110000) :=
  c.valid

/-- A step at the front of an encoded character finds this character. -/
theorem step_encodeChar (c : Char) (rest : Bytes) :
    ∃ lead more, encodeChar c = lead :: more ∧
      step lead (more ++ rest) = .character c more.length := by
  have hvalid := toNat_valid c
  have hc : Char.ofNat c.toNat = c := Char.ofNat_toNat c
  unfold encodeChar
  simp only
  -- by the number of bytes, which the range of the first byte tells
  split_ifs with h₁ h₂ h₃
  · refine ⟨_, [], rfl, ?_⟩
    unfold step
    simp only [toNat_ofNat_of_lt (show c.toNat < 0x100 by omega), if_pos h₁, hc, List.length_nil]
  · refine ⟨_, [_], rfl, ?_⟩
    unfold step
    simp only [toNat_ofNat_of_lt (show 0xC0 + c.toNat / 0x40 < 0x100 by omega)]
    rw [if_neg (by omega), if_neg (by omega), if_pos (by omega)]
    simp only [List.cons_append, List.nil_append, continues_ofNat (Nat.mod_lt c.toNat (by decide)),
      payload_ofNat (Nat.mod_lt c.toNat (by decide)), if_true, List.length_singleton]
    rw [show (0xC0 + c.toNat / 0x40) % 0x20 * 0x40 + c.toNat % 0x40 = c.toNat by omega, hc]
  · refine ⟨_, [_, _], rfl, ?_⟩
    have hsecond : secondAllowed (UInt8.ofNat (0xE0 + c.toNat / 0x1000))
        (UInt8.ofNat (0x80 + c.toNat / 0x40 % 0x40)) = true := by
      apply secondAllowed_ofNat <;> omega
    unfold step
    simp only [toNat_ofNat_of_lt (show 0xE0 + c.toNat / 0x1000 < 0x100 by omega)]
    rw [if_neg (by omega), if_neg (by omega), if_neg (by omega), if_pos (by omega)]
    simp only [List.cons_append, List.nil_append, hsecond,
      continues_ofNat (Nat.mod_lt c.toNat (by decide)),
      payload_ofNat (Nat.mod_lt c.toNat (by decide)),
      payload_ofNat (Nat.mod_lt (c.toNat / 0x40) (by decide)), if_true, List.length_cons,
      List.length_nil]
    rw [show (0xE0 + c.toNat / 0x1000) % 0x10 * 0x1000 + c.toNat / 0x40 % 0x40 * 0x40 +
      c.toNat % 0x40 = c.toNat by omega, hc]
  · refine ⟨_, [_, _, _], rfl, ?_⟩
    have hsecond : secondAllowed (UInt8.ofNat (0xF0 + c.toNat / 0x40000))
        (UInt8.ofNat (0x80 + c.toNat / 0x1000 % 0x40)) = true := by
      apply secondAllowed_ofNat <;> omega
    unfold step
    simp only [toNat_ofNat_of_lt (show 0xF0 + c.toNat / 0x40000 < 0x100 by omega)]
    rw [if_neg (by omega), if_neg (by omega), if_neg (by omega), if_neg (by omega),
      if_pos (by omega)]
    simp only [List.cons_append, List.nil_append, hsecond,
      continues_ofNat (Nat.mod_lt c.toNat (by decide)),
      continues_ofNat (Nat.mod_lt (c.toNat / 0x40) (by decide)),
      payload_ofNat (Nat.mod_lt c.toNat (by decide)),
      payload_ofNat (Nat.mod_lt (c.toNat / 0x40) (by decide)),
      payload_ofNat (Nat.mod_lt (c.toNat / 0x1000) (by decide)), if_true, List.length_cons,
      List.length_nil]
    rw [show (0xF0 + c.toNat / 0x40000) % 0x08 * 0x40000 + c.toNat / 0x1000 % 0x40 * 0x1000 +
      c.toNat / 0x40 % 0x40 * 0x40 + c.toNat % 0x40 = c.toNat by omega, hc]

/-! ## Texts -/

@[simp] theorem encode_nil : encode [] = [] := rfl

@[simp] theorem encode_cons (c : Char) (text : List Char) :
    encode (c :: text) = encodeChar c ++ encode text := rfl

@[simp] theorem encode_append (front back : List Char) :
    encode (front ++ back) = encode front ++ encode back := by
  simp [encode]

/-- The strict reader gives back every text from its bytes. -/
theorem decode?_encode (text : List Char) : decode? (encode text) = some text := by
  induction text with
  | nil => rw [encode_nil, decode?]
  | cons c text ih =>
      obtain ⟨lead, more, hbytes, hstep⟩ := step_encodeChar c (encode text)
      rw [encode_cons, hbytes, List.cons_append, decode?, hstep]
      simp only [List.drop_left, ih, Option.map_some]

/-- The lenient reader has nothing to replace in the bytes of a text. -/
theorem decodeLossy_encode (text : List Char) : decodeLossy (encode text) = text := by
  induction text with
  | nil => rw [encode_nil, decodeLossy]
  | cons c text ih =>
      obtain ⟨lead, more, hbytes, hstep⟩ := step_encodeChar c (encode text)
      rw [encode_cons, hbytes, List.cons_append, decodeLossy, hstep]
      simp only [List.drop_left, ih]

/-- Different texts have different bytes. -/
theorem encode_inj {text text' : List Char} : encode text = encode text' ↔ text = text' := by
  constructor
  · intro h
    have hdecode := decode?_encode text
    rw [h, decode?_encode, Option.some.injEq] at hdecode
    exact hdecode.symm
  · rintro rfl
    rfl

/-! ## Bytes below 128 -/

/-- A character below 128 is encoded as the byte with its number. -/
theorem encodeChar_of_lt {c : Char} (h : c.toNat < 0x80) :
    encodeChar c = [UInt8.ofNat c.toNat] := by
  unfold encodeChar
  simp only [if_pos h]

/-- The bytes of any other character are all 128 or above. -/
theorem le_of_mem_encodeChar {c : Char} (h : 0x80 ≤ c.toNat) {b : UInt8}
    (hb : b ∈ encodeChar c) : 0x80 ≤ b.toNat := by
  have hvalid := toNat_valid c
  have hbyte : ∀ n, 0x80 ≤ n → n < 0x100 → 0x80 ≤ (UInt8.ofNat n).toNat := by
    intro n hlow hhigh
    rwa [toNat_ofNat_of_lt hhigh]
  unfold encodeChar at hb
  simp only [if_neg (Nat.not_lt.2 h)] at hb
  split_ifs at hb
  all_goals simp only [List.mem_cons, List.not_mem_nil, or_false] at hb
  · rcases hb with rfl | rfl <;> apply hbyte <;> omega
  · rcases hb with rfl | rfl | rfl <;> apply hbyte <;> omega
  · rcases hb with rfl | rfl | rfl | rfl <;> apply hbyte <;> omega

theorem encodeChar_ne_nil (c : Char) : encodeChar c ≠ [] := by
  obtain ⟨lead, more, hbytes, -⟩ := step_encodeChar c []
  rw [hbytes]
  exact List.cons_ne_nil lead more

/-- A byte below 128 is found in the bytes of a character only if it is that character. -/
theorem mem_encodeChar_iff {a c : Char} (ha : a.toNat < 0x80) :
    UInt8.ofNat a.toNat ∈ encodeChar c ↔ c = a := by
  constructor
  · intro hmem
    by_cases hc : c.toNat < 0x80
    · rw [encodeChar_of_lt hc, List.mem_singleton, ← UInt8.toNat_inj,
        toNat_ofNat_of_lt (by omega), toNat_ofNat_of_lt (by omega)] at hmem
      exact Char.toNat_inj.1 hmem.symm
    · have hle := le_of_mem_encodeChar (Nat.not_lt.1 hc) hmem
      rw [toNat_ofNat_of_lt (by omega)] at hle
      omega
  · rintro rfl
    rw [encodeChar_of_lt ha]
    exact List.mem_singleton_self _

/-- The first byte of a text is a byte below 128 exactly when its first character is. -/
theorem head?_encode_eq_iff {a : Char} (ha : a.toNat < 0x80) (text : List Char) :
    (encode text).head? = some (UInt8.ofNat a.toNat) ↔ text.head? = some a := by
  cases text with
  | nil => simp
  | cons c text =>
      obtain ⟨lead, more, hbytes, -⟩ := step_encodeChar c []
      rw [encode_cons, List.head?_cons, Option.some.injEq, ← mem_encodeChar_iff ha]
      constructor
      · intro h
        rw [hbytes, List.cons_append, List.head?_cons, Option.some.injEq] at h
        rw [hbytes, ← h]
        exact List.mem_cons_self
      · intro h
        rw [(mem_encodeChar_iff ha).1 h, encodeChar_of_lt ha]
        rfl

/-- The last byte of a text is a byte below 128 exactly when its last character is. -/
theorem getLast?_encode_eq_iff {a : Char} (ha : a.toNat < 0x80) (text : List Char) :
    (encode text).getLast? = some (UInt8.ofNat a.toNat) ↔ text.getLast? = some a := by
  rcases List.eq_nil_or_concat text with rfl | ⟨front, c, rfl⟩
  · simp
  · obtain ⟨lead, more, hbytes, -⟩ := step_encodeChar c []
    have hlast : (encode (front ++ [c])).getLast? = (encodeChar c).getLast? := by
      rw [encode_append, encode_cons, encode_nil, List.append_nil, List.getLast?_append, hbytes,
        List.getLast?_cons, Option.some_or]
    rw [List.concat_eq_append, hlast, List.getLast?_concat, Option.some.injEq]
    constructor
    · intro h
      exact (mem_encodeChar_iff ha).1 (List.mem_of_getLast? h)
    · rintro rfl
      rw [encodeChar_of_lt ha, List.getLast?_singleton]

/-! ## What the strict reader accepts -/

private theorem toNat_charOfNat {n : Nat} (h : n < 0xD800 ∨ (0xDFFF < n ∧ n < 0x110000)) :
    (Char.ofNat n).toNat = n := by
  have hvalid : n.isValidChar := h
  rw [Char.ofNat, dif_pos hvalid]
  rfl

/-- A continuing byte is its six bits behind the mark. -/
private theorem ofNat_payload {b : UInt8} (h : continues b = true) :
    UInt8.ofNat (0x80 + payload b) = b := by
  simp only [continues, Bool.and_eq_true, decide_eq_true_eq, UInt8.le_iff_toNat_le,
    UInt8.reduceToNat] at h
  have hpayload : 0x80 + payload b = b.toNat := by
    unfold payload
    omega
  rw [hpayload, UInt8.ofNat_toNat]

private theorem payload_lt (b : UInt8) : payload b < 0x40 :=
  Nat.mod_lt _ (by decide)

/-- A second byte that is allowed continues the character, within the bounds of its lead byte. -/
private theorem of_secondAllowed {lead second : UInt8} (h : secondAllowed lead second = true) :
    continues second = true ∧ (lead.toNat = 0xE0 → 0x20 ≤ payload second) ∧
      (lead.toNat = 0xED → payload second < 0x20) ∧ (lead.toNat = 0xF0 → 0x10 ≤ payload second) ∧
        (lead.toNat = 0xF4 → payload second < 0x10) := by
  have hbyte : ∀ byte : UInt8, (lead == byte) = true ↔ lead.toNat = byte.toNat := by
    intro byte
    rw [beq_iff_eq, ← UInt8.toNat_inj]
  unfold secondAllowed at h
  unfold continues payload
  simp only [hbyte, UInt8.reduceToNat] at h
  split_ifs at h <;>
    simp only [continues, Bool.and_eq_true, decide_eq_true_eq, UInt8.le_iff_toNat_le,
      UInt8.reduceToNat] at h ⊢ <;> omega

/-- The encoding of a character, by the bits that its bytes carry. -/
private theorem encodeChar_of_two {n : Nat} {b : UInt8} (hlow : 0xC2 ≤ n) (hhigh : n < 0xE0)
    (hb : continues b = true) :
    encodeChar (Char.ofNat (n % 0x20 * 0x40 + payload b)) = [UInt8.ofNat n, b] := by
  have hpayload := payload_lt b
  have hnat : (Char.ofNat (n % 0x20 * 0x40 + payload b)).toNat = n % 0x20 * 0x40 + payload b :=
    toNat_charOfNat (by omega)
  unfold encodeChar
  simp only [hnat]
  rw [if_neg (by omega), if_pos (by omega),
    show 0xC0 + (n % 0x20 * 0x40 + payload b) / 0x40 = n by omega,
    show (n % 0x20 * 0x40 + payload b) % 0x40 = payload b by omega, ofNat_payload hb]

private theorem encodeChar_of_three {n : Nat} {b c : UInt8} (hlow : 0xE0 ≤ n) (hhigh : n < 0xF0)
    (hb : continues b = true) (hE0 : n = 0xE0 → 0x20 ≤ payload b)
    (hED : n = 0xED → payload b < 0x20) (hc : continues c = true) :
    encodeChar (Char.ofNat (n % 0x10 * 0x1000 + payload b * 0x40 + payload c)) =
      [UInt8.ofNat n, b, c] := by
  have hpayload := payload_lt b
  have hpayload' := payload_lt c
  have hnat : (Char.ofNat (n % 0x10 * 0x1000 + payload b * 0x40 + payload c)).toNat =
      n % 0x10 * 0x1000 + payload b * 0x40 + payload c := toNat_charOfNat (by omega)
  unfold encodeChar
  simp only [hnat]
  rw [if_neg (by omega), if_neg (by omega), if_pos (by omega),
    show 0xE0 + (n % 0x10 * 0x1000 + payload b * 0x40 + payload c) / 0x1000 = n by omega,
    show (n % 0x10 * 0x1000 + payload b * 0x40 + payload c) / 0x40 % 0x40 = payload b by omega,
    show (n % 0x10 * 0x1000 + payload b * 0x40 + payload c) % 0x40 = payload c by omega,
    ofNat_payload hb, ofNat_payload hc]

private theorem encodeChar_of_four {n : Nat} {b c d : UInt8} (hlow : 0xF0 ≤ n) (hhigh : n < 0xF5)
    (hb : continues b = true) (hF0 : n = 0xF0 → 0x10 ≤ payload b)
    (hF4 : n = 0xF4 → payload b < 0x10) (hc : continues c = true) (hd : continues d = true) :
    encodeChar (Char.ofNat (n % 0x08 * 0x40000 + payload b * 0x1000 + payload c * 0x40 +
      payload d)) = [UInt8.ofNat n, b, c, d] := by
  have hpayload := payload_lt b
  have hpayload' := payload_lt c
  have hpayload'' := payload_lt d
  have hnat : (Char.ofNat (n % 0x08 * 0x40000 + payload b * 0x1000 + payload c * 0x40 +
      payload d)).toNat = n % 0x08 * 0x40000 + payload b * 0x1000 + payload c * 0x40 + payload d :=
    toNat_charOfNat (by omega)
  unfold encodeChar
  simp only [hnat]
  rw [if_neg (by omega), if_neg (by omega), if_neg (by omega),
    show 0xF0 + (n % 0x08 * 0x40000 + payload b * 0x1000 + payload c * 0x40 + payload d) /
      0x40000 = n by omega,
    show (n % 0x08 * 0x40000 + payload b * 0x1000 + payload c * 0x40 + payload d) / 0x1000 %
      0x40 = payload b by omega,
    show (n % 0x08 * 0x40000 + payload b * 0x1000 + payload c * 0x40 + payload d) / 0x40 %
      0x40 = payload c by omega,
    show (n % 0x08 * 0x40000 + payload b * 0x1000 + payload c * 0x40 + payload d) % 0x40 =
      payload d by omega,
    ofNat_payload hb, ofNat_payload hc, ofNat_payload hd]

/-- A step that finds a character covers its encoding. -/
theorem encodeChar_of_step {lead : UInt8} {rest : Bytes} {c : Char} {more : Nat}
    (h : step lead rest = .character c more) : encodeChar c ++ rest.drop more = lead :: rest := by
  have hlead := lead.toNat_lt
  unfold step at h
  simp only at h
  -- by the range of the first byte; a short or ill-formed rest finds no character
  split_ifs at h with h₁ h₂ h₃ h₄ h₅
  · cases h
    rw [encodeChar_of_lt (by rw [toNat_charOfNat (by omega)]; exact h₁),
      toNat_charOfNat (by omega), UInt8.ofNat_toNat]
    rfl
  · split at h
    · next b more =>
        split_ifs at h with hb
        cases h
        rw [encodeChar_of_two (by omega) h₃ hb, UInt8.ofNat_toNat]
        rfl
    · cases h
  · split at h
    · next b c more =>
        split_ifs at h with hb hc
        cases h
        obtain ⟨hb, hE0, hED, -⟩ := of_secondAllowed hb
        rw [encodeChar_of_three (by omega) h₄ hb hE0 hED hc, UInt8.ofNat_toNat]
        rfl
    · split_ifs at h
    · cases h
  · split at h
    · next b c d more =>
        split_ifs at h with hb hc hd
        cases h
        obtain ⟨hb, -, -, hF0, hF4⟩ := of_secondAllowed hb
        rw [encodeChar_of_four (by omega) h₅ hb hF0 hF4 hc hd, UInt8.ofNat_toNat]
        rfl
    · split_ifs at h
    · split_ifs at h
    · cases h

/-- The strict reader accepts nothing but encodings. -/
theorem encode_of_decode? {bytes : Bytes} {text : List Char} (h : decode? bytes = some text) :
    encode text = bytes := by
  fun_induction decode? bytes generalizing text with
  | case1 => cases h; rfl
  | case2 lead rest c more hstep ih =>
      obtain ⟨others, hothers, rfl⟩ := Option.map_eq_some_iff.1 h
      rw [encode_cons, ih hothers, encodeChar_of_step hstep]
  | case3 => cases h

end Patchbay.Utf8
