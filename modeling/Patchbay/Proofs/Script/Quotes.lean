import Patchbay.Proofs.Script.Grammar
import Patchbay.Proofs.Text.Utf8

/-!
# Quotes by bytes

Quotes are looked for among the characters of a text.  They can also be looked for among its bytes:
if the first and the last byte are equal quotes, the text is cut one byte behind its beginning and
one byte before its end.  Such cuts could fall outside of the text or inside a character, and a text
of a single quote is one where they would cross.

`cutQuotes?_eq` says that this never happens, and that both ways find the same text.
-/

namespace Patchbay

namespace Utf8

/-- The first `count` bytes of a text, if these are whole characters. -/
def takeBytes? : List Char → Nat → Option (List Char)
  | _, 0 => some []
  | [], _ + 1 => none
  | c :: rest, count + 1 =>
      let size := (encodeChar c).length
      if size ≤ count + 1 then (takeBytes? rest (count + 1 - size)).map (c :: ·) else none

/-- The part of a text between two byte offsets, if both are in range and none is inside a
character. -/
def slice? (text : List Char) (start stop : Nat) : Option (List Char) :=
  if start ≤ stop then (dropBytes? text start).bind (takeBytes? · (stop - start)) else none

theorem length_encodeChar_pos (c : Char) : 0 < (encodeChar c).length :=
  List.length_pos_iff.2 (encodeChar_ne_nil c)

/-- A text that is not empty has bytes, and those of its first character are the first of them. -/
theorem length_encode_cons (c : Char) (text : List Char) :
    ∃ count, (encode (c :: text)).length = count + 1 ∧
      count + 1 = (encodeChar c).length + (encode text).length := by
  have hsize := length_encodeChar_pos c
  refine ⟨(encodeChar c).length - 1 + (encode text).length, ?_, by omega⟩
  rw [encode_cons, List.length_append]
  omega

theorem takeBytes?_append (front back : List Char) :
    takeBytes? (front ++ back) (encode front).length = some front := by
  induction front with
  | nil => rw [encode_nil, List.length_nil, takeBytes?]
  | cons c front ih =>
      obtain ⟨count, hcount, hlength⟩ := length_encode_cons c front
      rw [hcount, List.cons_append, takeBytes?]
      simp only [hlength, Nat.le_add_right, if_true, Nat.add_sub_cancel_left, ih, Option.map_some]

theorem dropBytes?_append (front back : List Char) :
    dropBytes? (front ++ back) (encode front).length = some back := by
  induction front with
  | nil => rw [encode_nil, List.length_nil, dropBytes?, List.nil_append]
  | cons c front ih =>
      obtain ⟨count, hcount, hlength⟩ := length_encode_cons c front
      rw [hcount, List.cons_append, dropBytes?]
      simp only [hlength, Nat.le_add_right, if_true, Nat.add_sub_cancel_left, ih]

/-- A text can be cut wherever a part of it ends. -/
theorem slice?_append (front middle back : List Char) :
    slice? (front ++ middle ++ back) (encode front).length
      ((encode front).length + (encode middle).length) = some middle := by
  rw [slice?, if_pos (Nat.le_add_right _ _), List.append_assoc, dropBytes?_append,
    Option.bind_some, Nat.add_sub_cancel_left, takeBytes?_append]

end Utf8

namespace Script

/-- Whether the first and the last byte are equal quotes, and not the same byte. -/
def quotedBytes (bytes : Bytes) : Bool :=
  match bytes.head?, bytes.getLast? with
  | some first, some last =>
      (first == 0x22 || first == 0x27) && 2 ≤ bytes.length && first == last
  | _, _ => false

/-- The text between its quotes if it has any, found and cut by bytes; nothing if a cut goes
astray. -/
def cutQuotes? (text : List Char) : Option (Option (List Char)) :=
  if quotedBytes (Utf8.encode text) then
    (Utf8.slice? text 1 ((Utf8.encode text).length - 1)).map some
  else some none

theorem IsQuote.lt {quote : Char} (h : IsQuote quote) : quote.toNat < 0x80 := by
  rcases h with rfl | rfl <;> decide

/-- The quotes that are found among the bytes of a text are those of the text. -/
theorem quotedBytes_iff {text : List Char} :
    quotedBytes (Utf8.encode text) = true ↔ ∃ inner, Quoted text inner := by
  constructor
  · intro h
    unfold quotedBytes at h
    split at h
    · next first last hfirst hlast =>
        simp only [Bool.and_eq_true, Bool.or_eq_true, beq_iff_eq, decide_eq_true_eq] at h
        obtain ⟨⟨hquote, hlength⟩, rfl⟩ := h
        obtain ⟨quote, hisQuote, rfl⟩ :
            ∃ quote, IsQuote quote ∧ first = UInt8.ofNat quote.toNat := by
          rcases hquote with rfl | rfl
          · exact ⟨'"', .inl rfl, rfl⟩
          · exact ⟨'\'', .inr rfl, rfl⟩
        rw [Utf8.head?_encode_eq_iff hisQuote.lt] at hfirst
        rw [Utf8.getLast?_encode_eq_iff hisQuote.lt] at hlast
        cases text with
        | nil => cases hfirst
        | cons c rest =>
            obtain rfl := Option.some.inj hfirst
            -- a single quote has only one byte, so there is a second one at the end
            have hrest : rest ≠ [] := by
              rintro rfl
              rw [Utf8.encode_cons, Utf8.encodeChar_of_lt hisQuote.lt] at hlength
              simp at hlength
            rw [List.getLast?_cons_of_ne_nil hrest] at hlast
            refine ⟨rest.dropLast, c, hisQuote, ?_⟩
            rw [List.dropLast_append_getLast? c hlast]
    · cases h
  · rintro ⟨inner, quote, hquote, rfl⟩
    have hfirst := (Utf8.head?_encode_eq_iff hquote.lt (quote :: (inner ++ [quote]))).2 rfl
    have hend : (quote :: (inner ++ [quote])).getLast? = some quote := by
      rw [← List.cons_append, List.getLast?_concat]
    have hlast := (Utf8.getLast?_encode_eq_iff hquote.lt (quote :: (inner ++ [quote]))).2 hend
    have hlength : 2 ≤ (Utf8.encode (quote :: (inner ++ [quote]))).length := by
      have hpos := Utf8.length_encodeChar_pos quote
      simp only [Utf8.encode_cons, Utf8.encode_append, Utf8.encode_nil, List.append_nil,
        List.length_append]
      omega
    simp only [quotedBytes, hfirst, hlast, hlength, decide_true, beq_self_eq_true, Bool.and_true]
    rcases hquote with rfl | rfl <;> decide

/-- Cutting quotes off by bytes never goes astray, and finds what is between the quotes. -/
theorem cutQuotes?_eq (text : List Char) : cutQuotes? text = some (betweenQuotes? text) := by
  unfold cutQuotes?
  by_cases h : ∃ inner, Quoted text inner
  · rw [if_pos (quotedBytes_iff.2 h)]
    obtain ⟨inner, hquoted⟩ := h
    rw [quoted_iff_betweenQuotes?.1 hquoted]
    obtain ⟨quote, hquote, rfl⟩ := hquoted
    -- a quote is one byte, so the cut behind the first and before the last is between characters
    have hone : (Utf8.encode [quote]).length = 1 := by
      rw [Utf8.encode_cons, Utf8.encodeChar_of_lt hquote.lt]
      rfl
    have hslice := Utf8.slice?_append [quote] inner [quote]
    have hstop : (Utf8.encode (quote :: (inner ++ [quote]))).length - 1 =
        1 + (Utf8.encode inner).length := by
      have htext : quote :: (inner ++ [quote]) = [quote] ++ inner ++ [quote] := rfl
      rw [htext, Utf8.encode_append, Utf8.encode_append, List.length_append, List.length_append,
        hone]
      omega
    rw [hone] at hslice
    rw [hstop]
    exact congrArg (Option.map some) hslice
  · have hnone : betweenQuotes? text = none := by
      rw [Option.eq_none_iff_forall_ne_some]
      intro inner hinner
      exact h ⟨inner, quoted_iff_betweenQuotes?.2 hinner⟩
    have hbytes : ¬ quotedBytes (Utf8.encode text) = true := by
      intro hbytes
      exact h (quotedBytes_iff.1 hbytes)
    rw [if_neg hbytes, hnone]

end Script

end Patchbay
