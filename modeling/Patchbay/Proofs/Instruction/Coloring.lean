import Patchbay.Instruction.Listing
import Patchbay.Proofs.Instruction.WireFormat
import Patchbay.Proofs.Text.Utf8
import Patchbay.Proofs.Value.Texts

/-!
# Colours do not change what a listing says

A coloured listing has four terminal codes in it, and without them it is the plain listing
(`ofStream_erase`).  The codes can be taken out all at once or one after the other, in any order.

A code can be told from the text around it by its first character, the escape character, which has
no other place in a code.  So the codes of a coloured text are found as long as the text itself has
no escape character.  What a listing adds to the strings of a stream has none, and a stream without
the byte of the escape character has none in its strings.
-/

namespace Patchbay

/-! ## Terminal codes -/

/-- The character that every terminal code begins with. -/
def escape : Char := '\x1b'

/-- The terminal codes of a listing. -/
inductive Code where
  | blue
  | green
  | dim
  | reset
deriving DecidableEq, Repr

namespace Code

/-- The characters of a code. -/
def text : Code → List Char
  | blue => "\x1b[34m".toList
  | green => "\x1b[32m".toList
  | dim => "\x1b[2m".toList
  | reset => "\x1b[0m".toList

/-- A text without the given codes, which are looked for from the left.  The first `skip` characters
are those of a code that has been found before. -/
def eraseFrom (codes : List Code) : Nat → List Char → List Char
  | _, [] => []
  | skip + 1, _ :: rest => eraseFrom codes skip rest
  | 0, c :: rest =>
    match codes.find? (fun code => code.text.isPrefixOf (c :: rest)) with
    | some code => eraseFrom codes (code.text.length - 1) rest
    | none => c :: eraseFrom codes 0 rest

/-- A text without any occurrence of the given codes. -/
def erase (codes : List Code) (text : List Char) : List Char :=
  eraseFrom codes 0 text

/-- A text from which codes have been taken in several passes. -/
def eraseAll (passes : List (List Code)) (text : List Char) : List Char :=
  passes.foldl (fun text codes => erase codes text) text

/-- The escape character begins a code and has no other place in it. -/
theorem exists_text_eq (code : Code) : ∃ rest, code.text = escape :: rest ∧ escape ∉ rest := by
  cases code with
  | blue => exact ⟨"[34m".toList, rfl, by decide⟩
  | green => exact ⟨"[32m".toList, rfl, by decide⟩
  | dim => exact ⟨"[2m".toList, rfl, by decide⟩
  | reset => exact ⟨"[0m".toList, rfl, by decide⟩

/-- No code begins with another one. -/
theorem isPrefixOf_text_append (code other : Code) (rest : List Char) :
    code.text.isPrefixOf (other.text ++ rest) = (code == other) := by
  cases code <;> cases other <;> rfl

theorem isPrefixOf_of_ne (code : Code) {c : Char} (hc : c ≠ escape) (rest : List Char) :
    code.text.isPrefixOf (c :: rest) = false := by
  obtain ⟨more, htext, -⟩ := code.exists_text_eq
  rw [htext, List.isPrefixOf_cons_cons, beq_eq_false_iff_ne.2 hc.symm, Bool.false_and]

section

variable (codes : List Code)

theorem eraseFrom_length_append (front rest : List Char) :
    eraseFrom codes front.length (front ++ rest) = erase codes rest := by
  induction front with
  | nil => rfl
  | cons c front ih => exact ih

/-- Text without the escape character is left as it is. -/
theorem erase_append_of_notMem {front : List Char} (h : escape ∉ front) (rest : List Char) :
    erase codes (front ++ rest) = front ++ erase codes rest := by
  induction front with
  | nil => rfl
  | cons c front ih =>
      have hc : c ≠ escape := by
        rintro rfl
        exact h List.mem_cons_self
      have hfind :
          codes.find? (fun code => code.text.isPrefixOf (c :: (front ++ rest))) = none := by
        rw [List.find?_eq_none]
        intro code _
        rw [isPrefixOf_of_ne code hc]
        exact Bool.false_ne_true
      have ih' := ih fun hmem => h (List.mem_cons_of_mem c hmem)
      unfold erase at ih' ⊢
      rw [List.cons_append, eraseFrom, hfind]
      exact congrArg (c :: ·) ih'

/-- A code goes if it is one of those that are taken out, and stays otherwise. -/
theorem erase_text_append (code : Code) (rest : List Char) :
    erase codes (code.text ++ rest) =
      (if code ∈ codes then [] else code.text) ++ erase codes rest := by
  obtain ⟨more, htext, hmore⟩ := code.exists_text_eq
  have hprefix : (fun other : Code => other.text.isPrefixOf (escape :: (more ++ rest))) =
      fun other => other == code := by
    funext other
    rw [← List.cons_append, ← htext, isPrefixOf_text_append]
  rw [htext, List.cons_append, erase, eraseFrom, hprefix]
  cases hfind : codes.find? (fun other => other == code) with
  | none =>
      have hmem : code ∉ codes := by
        intro hmem
        exact List.find?_eq_none.1 hfind code hmem (beq_self_eq_true code)
      rw [if_neg hmem]
      exact congrArg (escape :: ·) (erase_append_of_notMem codes hmore rest)
  | some other =>
      have hmem := List.mem_of_find?_eq_some hfind
      have hother : other = code := by simpa using List.find?_some hfind
      have hlength : code.text.length - 1 = more.length := by
        rw [htext, List.length_cons, Nat.add_sub_cancel]
      rw [hother] at hmem ⊢
      simp only [if_pos hmem, hlength]
      exact eraseFrom_length_append codes more rest

end

end Code

/-! ## Texts in pieces -/

/-- A part of a coloured text: a code, or characters of the text itself. -/
inductive Piece where
  | code (code : Code)
  | text (characters : List Char)

namespace Piece

def characters : Piece → List Char
  | .code c => c.text
  | .text characters => characters

/-- Whether a piece is left when the given codes have been taken out. -/
def survives (codes : List Code) : Piece → Bool
  | .code c => c ∉ codes
  | .text _ => true

/-- The characters of pieces, one after the other. -/
def join (pieces : List Piece) : List Char :=
  pieces.flatMap characters

/-- Pieces whose text has no escape character. -/
def Clear (pieces : List Piece) : Prop :=
  ∀ characters, text characters ∈ pieces → escape ∉ characters

theorem erase_join (codes : List Code) {pieces : List Piece} (h : Clear pieces) :
    Code.erase codes (join pieces) = join (pieces.filter (survives codes)) := by
  induction pieces with
  | nil => rfl
  | cons piece pieces ih =>
      have ih' := ih fun characters hmem => h characters (List.mem_cons_of_mem piece hmem)
      unfold join at ih' ⊢
      cases piece with
      | code c =>
          rw [List.flatMap_cons, characters, Code.erase_text_append, ih']
          by_cases hmem : c ∈ codes
          · rw [if_pos hmem, List.filter_cons_of_neg (by simpa [survives] using hmem),
              List.nil_append]
          · rw [if_neg hmem, List.filter_cons_of_pos (by simpa [survives] using hmem)]
            rfl
      | text own =>
          rw [List.flatMap_cons, characters,
            Code.erase_append_of_notMem codes (h own List.mem_cons_self), ih',
            List.filter_cons_of_pos rfl]
          rfl

/-- Whether a piece is left when codes have been taken out in passes. -/
def outlasts (passes : List (List Code)) (piece : Piece) : Bool :=
  passes.all fun codes => survives codes piece

theorem eraseAll_join (passes : List (List Code)) {pieces : List Piece} (h : Clear pieces) :
    Code.eraseAll passes (join pieces) = join (pieces.filter (outlasts passes)) := by
  induction passes generalizing pieces with
  | nil => exact congrArg join (List.filter_eq_self.2 fun piece _ => rfl).symm
  | cons codes passes ih =>
      have hclear : Clear (pieces.filter (survives codes)) := by
        intro characters hmem
        exact h characters (List.mem_of_mem_filter hmem)
      have hfilter : (pieces.filter (survives codes)).filter (outlasts passes) =
          pieces.filter (outlasts (codes :: passes)) := by
        rw [List.filter_filter]
        refine List.filter_congr ?_
        intro piece _
        rw [outlasts, outlasts, List.all_cons, Bool.and_comm]
      calc Code.eraseAll (codes :: passes) (join pieces)
          = Code.eraseAll passes (Code.erase codes (join pieces)) := rfl
        _ = Code.eraseAll passes (join (pieces.filter (survives codes))) := by
            rw [erase_join codes h]
        _ = join (pieces.filter (outlasts (codes :: passes))) := by rw [ih hclear, hfilter]

/-- What a piece holds of the text itself. -/
def own : Piece → List Char
  | .code _ => []
  | .text characters => characters

/-- When each of the codes has been taken out, the text itself is left. -/
theorem eraseAll_join_of_cover {passes : List (List Code)}
    (hpasses : ∀ code, ∃ pass ∈ passes, code ∈ pass) {pieces : List Piece} (h : Clear pieces) :
    Code.eraseAll passes (join pieces) = pieces.flatMap own := by
  rw [eraseAll_join passes h, join]
  clear h
  induction pieces with
  | nil => rfl
  | cons piece pieces ih =>
      cases piece with
      | code c =>
          have hgone : ¬ outlasts passes (.code c) = true := by
            obtain ⟨pass, hpass, hmem⟩ := hpasses c
            intro hall
            exact of_decide_eq_true (List.all_eq_true.1 hall pass hpass) hmem
          rw [List.filter_cons_of_neg hgone, ih]
          rfl
      | text characters =>
          have hstays : outlasts passes (.text characters) = true :=
            List.all_eq_true.2 fun _ _ => rfl
          rw [List.filter_cons_of_pos hstays, List.flatMap_cons, ih]
          rfl

end Piece

/-! ## Segments of a listing -/

/-- The code that switches on a style of a listing. -/
def Style.code? : Style → Option Code
  | blue => some .blue
  | green => some .green
  | dim => some .dim
  | _ => none

namespace Segment

/-- A segment in one of the styles of a listing, without the escape character. -/
structure Listed (segment : Segment) : Prop where
  style : segment.style = .plain ∨ segment.style.code?.isSome = true
  text : escape ∉ segment.text.toList

def pieces (segment : Segment) : List Piece :=
  match segment.style.code? with
  | none => [.text segment.text.toList]
  | some code => [.code code, .text segment.text.toList, .code .reset]

theorem toList_colored {segment : Segment} (h : segment.Listed) :
    segment.colored.toList = Piece.join segment.pieces := by
  obtain ⟨style, text⟩ := segment
  have hstyle : style = .plain ∨ style.code?.isSome = true := h.style
  have hstyled : ∀ {parameter : String} (code : Code), (terminalCode parameter).toList = code.text →
      (String.join [terminalCode parameter] ++ text ++ terminalCode "0").toList =
        Piece.join [.code code, .text text.toList, .code .reset] := by
    intro parameter code hcode
    have hreset : (terminalCode "0").toList = Code.reset.text := by decide
    rw [String.toList_append, String.toList_append, String.toList_join, List.flatMap_singleton,
      hcode, hreset, List.append_assoc]
    exact congrArg _ (congrArg _ (List.append_nil _).symm)
  cases style with
  | plain => exact (List.append_nil text.toList).symm
  | blue => exact hstyled .blue (by decide)
  | green => exact hstyled .green (by decide)
  | dim => exact hstyled .dim (by decide)
  | bold => simp [Style.code?] at hstyle
  | alarm => simp [Style.code?] at hstyle
  | margin => simp [Style.code?] at hstyle

theorem own_pieces (segment : Segment) :
    segment.pieces.flatMap Piece.own = segment.text.toList := by
  unfold pieces
  cases segment.style.code? <;> simp [Piece.own]

theorem clear_pieces {segments : List Segment} (h : ∀ segment ∈ segments, segment.Listed) :
    Piece.Clear (segments.flatMap pieces) := by
  intro characters hmem
  obtain ⟨segment, hsegment, hpiece⟩ := List.mem_flatMap.1 hmem
  have htext : characters = segment.text.toList := by
    unfold pieces at hpiece
    cases hcode : segment.style.code? with
    | none => simpa [hcode] using hpiece
    | some code => simpa [hcode] using hpiece
  rw [htext]
  exact (h segment hsegment).text

theorem toList_render (color : Bool) (segments : List Segment) :
    (render color segments).toList = segments.flatMap fun segment =>
      (if color then segment.colored else segment.text).toList := by
  rw [render, String.toList_join, List.flatMap_map]

/-- Without the codes the coloured text is the plain one. -/
theorem eraseAll_render {passes : List (List Code)}
    (hpasses : ∀ code, ∃ pass ∈ passes, code ∈ pass) {segments : List Segment}
    (h : ∀ segment ∈ segments, segment.Listed) :
    Code.eraseAll passes (render true segments).toList = (render false segments).toList := by
  have hcolored : (render true segments).toList = Piece.join (segments.flatMap pieces) := by
    rw [toList_render, Piece.join, List.flatMap_assoc]
    refine List.flatMap_congr ?_
    intro segment hsegment
    exact toList_colored (h segment hsegment)
  rw [hcolored, Piece.eraseAll_join_of_cover hpasses (clear_pieces h), toList_render,
    List.flatMap_assoc]
  refine List.flatMap_congr ?_
  intro segment _
  exact own_pieces segment

end Segment

/-! ## Numbers without the escape character -/

theorem escape_notMem_toDigits {base : ℕ} (hbase : 1 < base) (hle : base ≤ 16) (n : ℕ) :
    escape ∉ Nat.toDigits base n := by
  have hdigit : ∀ d < 16, escape ≠ Nat.digitChar d := by decide
  induction n using Nat.strongRecOn with
  | _ n ih =>
      by_cases hlt : n < base
      · rw [Nat.toDigits_of_lt_base hlt, List.mem_singleton]
        exact hdigit n (by omega)
      · have hrest : n % base < base := Nat.mod_lt n (by omega)
        rw [Nat.toDigits_of_base_le hbase (Nat.not_lt.1 hlt), List.mem_append, List.mem_singleton]
        rintro (hmem | heq)
        · exact ih (n / base) (Nat.div_lt_self (by omega) hbase) hmem
        · exact hdigit (n % base) (by omega) heq

namespace Layout

section

variable {digits : List Char} (h : escape ∉ digits)
include h

theorem escape_notMem_placesText (keepsPlace : Bool) (first : ℤ) :
    escape ∉ placesText keepsPlace digits first := by
  have hzero : escape ≠ '0' := by decide
  have hpoint : escape ≠ '.' := by decide
  have htake : ∀ n, escape ∉ digits.take n := fun n hmem => h (List.mem_of_mem_take hmem)
  have hdrop : ∀ n, escape ∉ digits.drop n := fun n hmem => h (List.mem_of_mem_drop hmem)
  unfold placesText
  simp only
  split_ifs <;> simp [h, hzero, hpoint, htake, hdrop]

theorem escape_notMem_exponentText (first : ℤ) : escape ∉ exponentText "" digits first := by
  have hmark : escape ≠ 'e' := by decide
  have hminus : escape ≠ '-' := by decide
  have hpoint : escape ≠ '.' := by decide
  have htake : escape ∉ digits.take 1 := fun hmem => h (List.mem_of_mem_take hmem)
  have hdrop : escape ∉ digits.drop 1 := fun hmem => h (List.mem_of_mem_drop hmem)
  have hexponent : escape ∉ Nat.toDigits 10 first.natAbs :=
    escape_notMem_toDigits (by decide) (by decide) _
  unfold exponentText
  simp only [List.mem_append, not_or]
  refine ⟨⟨⟨⟨htake, ?_⟩, by simp [hmark]⟩, ?_⟩, hexponent⟩
  · cases hrest : digits.drop 1 with
    | nil => exact List.not_mem_nil
    | cons d others =>
        rw [hrest] at hdrop
        exact List.not_mem_cons_of_ne_of_not_mem hpoint hdrop
  · split_ifs
    · simp [hminus]
    · simp

end

theorem escape_notMem_text {layout : Layout} (h : layout.Legible) (v : Binary64) :
    escape ∉ (layout.text v).toList := by
  rcases text_eq h v with ⟨-, htext⟩ | ⟨-, htext⟩ | ⟨-, htext⟩
  · rw [htext]
    decide
  · rw [htext]
    split_ifs <;> decide
  · generalize Decimal.shortest layout.tie v = d at htext
    have hdigits : escape ∉ significantDigits d.coefficient := by
      obtain ⟨zeros, hdigits⟩ := toDigits_eq_significantDigits d.coefficient
      have hall : escape ∉ Nat.toDigits 10 d.coefficient :=
        escape_notMem_toDigits (by decide) (by decide) _
      rw [hdigits] at hall
      exact fun hmem => hall (List.mem_append_left _ hmem)
    have hdecimal : escape ∉ layout.decimalText d := by
      unfold decimalText
      split
      · split_ifs <;> decide
      · simp only
        split_ifs
        · exact escape_notMem_placesText hdigits _ _
        · rw [h.exponentSign]
          exact escape_notMem_exponentText hdigits _
    rw [htext, List.mem_append, not_or]
    refine ⟨?_, hdecimal⟩
    split_ifs <;> decide

end Layout

/-! ## Strings and values of a stream -/

/-- The byte of the escape character. -/
def escapeByte : UInt8 := 0x1B

theorem escape_notMem_of_encode {text : List Char} (h : escapeByte ∉ Utf8.encode text) :
    escape ∉ text := by
  intro hmem
  refine h (List.mem_flatMap.2 ⟨escape, hmem, ?_⟩)
  decide

theorem escape_notMem_of_wireString {s : String} (h : escapeByte ∉ wireString s) :
    escape ∉ s.toList := by
  refine escape_notMem_of_encode fun hmem => h ?_
  exact List.mem_append_left _ hmem

namespace TaggedValue

theorem escape_ne_code (tag : Tag) : escape ≠ tag.code := by
  have hall : ∀ tag ∈ Tag.all, escape ≠ tag.code := by decide
  exact hall tag (Tag.mem_all tag)

/-- A number or a truth value is shown without the escape character. -/
theorem escape_notMem_text {v : Value} (h : ∀ s, v ≠ .string s) : escape ∉ v.text.toList := by
  have hinteger : ∀ n : ℤ, escape ∉ (toString n).toList := by
    intro n
    rw [IntegerReading.toList_toString, Layout.integerText, List.mem_append, not_or]
    refine ⟨?_, escape_notMem_toDigits (by decide) (by decide) _⟩
    split_ifs <;> decide
  cases v with
  | unsigned n => exact hinteger n
  | signed n => exact hinteger n
  | bool b => cases b <;> decide
  | double w => exact Layout.escape_notMem_text Layout.legible_value w
  | fixPoint p => exact Layout.escape_notMem_text Layout.legible_plain _
  | string s => exact absurd rfl (h s)

theorem escape_notMem_literal {v : TaggedValue} (h : escapeByte ∉ v.wire) :
    escape ∉ v.literal.toList := by
  obtain ⟨tag, value⟩ := v
  have hbytes : escapeByte ∉ value.bytes (tag.width?.getD 0) := by
    intro hmem
    exact h (List.mem_append_left _ (List.mem_cons_of_mem _ hmem))
  -- a number stands between parentheses behind the code of its tag
  have htagged : (∀ s, value ≠ .string s) →
      escape ∉ (tag.code.toString ++ "(" ++ value.text ++ ")").toList := by
    intro hvalue
    have hopen : escape ≠ '(' := by decide
    have hclose : escape ≠ ')' := by decide
    simp [escape_ne_code tag, hopen, hclose, escape_notMem_text hvalue]
  cases value with
  | unsigned n => exact htagged (by simp)
  | signed n => exact htagged (by simp)
  | bool b => exact escape_notMem_text (by simp)
  | double w => exact htagged (by simp)
  | fixPoint p => exact htagged (by simp)
  | string s =>
      have hs : escape ∉ s.toList := escape_notMem_of_encode hbytes
      have hsingle : escape ≠ '\'' := by decide
      have hdouble : escape ≠ '"' := by decide
      simp only [literal]
      split_ifs <;> simp [hs, hsingle, hdouble]

end TaggedValue

/-! ## Listings -/

namespace Listing

theorem listed_plain {text : String} (h : escape ∉ text.toList) : (Segment.plain text).Listed :=
  ⟨.inl rfl, h⟩

theorem listed_name {s : String} (h : escapeByte ∉ wireString s) : (name s).Listed := by
  have hquote : escape ≠ '"' := by decide
  exact ⟨.inr rfl, by simp [name, hquote, escape_notMem_of_wireString h]⟩

theorem listed_endpoint {s : String} (h : escapeByte ∉ wireString s) : (endpoint s).Listed := by
  unfold endpoint
  split_ifs
  · exact ⟨.inr rfl, by decide⟩
  · exact listed_name h

theorem listed_count (n : ℕ) : (count n).Listed := by
  have hdigits : escape ∉ (toString n).toList :=
    TaggedValue.escape_notMem_text (v := .unsigned n) (by simp)
  have hopen : escape ∉ "(".toList := by decide
  have hnoun : escape ∉ (if n == 1 then " value)" else " values)").toList := by
    split_ifs <;> decide
  refine ⟨.inr rfl, ?_⟩
  simp only [count, String.toList_append, List.mem_append, not_or]
  exact ⟨⟨hopen, hdigits⟩, hnoun⟩

theorem listed_assignment {a : Assignment} (h : escapeByte ∉ a.wire) :
    ∀ segment ∈ assignment a, segment.Listed := by
  have hname : escape ∉ a.name.toList :=
    escape_notMem_of_wireString fun hmem => h (List.mem_append_left _ hmem)
  have hliteral : escape ∉ a.value.literal.toList :=
    TaggedValue.escape_notMem_literal fun hmem => h (List.mem_append_right _ hmem)
  have hequals : escape ∉ " = ".toList := by decide
  have hleft : escape ∉ (a.name ++ " = ").toList := by
    rw [String.toList_append, List.mem_append, not_or]
    exact ⟨hname, hequals⟩
  simp only [assignment, List.forall_mem_cons]
  exact ⟨listed_plain hleft, ⟨.inr rfl, hliteral⟩, by simp⟩

theorem listed_block {element : String} {values : List Assignment}
    (h : escapeByte ∉ wireString element ++ Assignment.wireList values) :
    ∀ segment ∈ block element values, segment.Listed := by
  rw [List.mem_append, not_or] at h
  have hvalues : ∀ a ∈ values, escapeByte ∉ a.wire := by
    intro a ha hmem
    exact h.2 (List.mem_cons_of_mem _ (List.mem_flatMap.2 ⟨a, ha, hmem⟩))
  simp only [block, List.forall_mem_append, List.forall_mem_cons, List.forall_mem_flatMap]
  refine ⟨⟨listed_name h.1, listed_plain (by decide), listed_count _, by simp⟩, ?_⟩
  intro a ha
  exact ⟨listed_plain (by decide), listed_assignment (hvalues a ha)⟩

/-- Two operands with a space between them. -/
theorem listed_pair {first second : Segment} (hfirst : first.Listed) (hsecond : second.Listed) :
    ∀ segment ∈ [first, .plain " ", second], segment.Listed := by
  simp only [List.forall_mem_cons]
  exact ⟨hfirst, listed_plain (by decide), hsecond, by simp⟩

theorem listed_operands {i : Instruction} (h : escapeByte ∉ i.operands) :
    ∀ segment ∈ operands i, segment.Listed := by
  have hparts : ∀ {front back : Bytes}, escapeByte ∉ front ++ back →
      escapeByte ∉ front ∧ escapeByte ∉ back := by
    intro front back hmem
    rwa [List.mem_append, not_or] at hmem
  cases i with
  | clearInstances =>
      simp only [operands, List.forall_mem_singleton]
      exact listed_plain (by decide)
  | addInstance id instanceName =>
      exact listed_pair (listed_name (hparts h).1) (listed_name (hparts h).2)
  | removeInstance instanceName =>
      simp only [operands, List.forall_mem_singleton]
      exact listed_name h
  | setValues element values => exact listed_block h
  | updateValues element values => exact listed_block h
  | updateValue element value =>
      simp only [operands, List.forall_mem_append, List.forall_mem_cons]
      exact ⟨⟨listed_name (hparts h).1, listed_plain (by decide), by simp⟩,
        listed_assignment (hparts h).2⟩
  | deleteValue element control =>
      exact listed_pair (listed_name (hparts h).1) (listed_name (hparts h).2)
  | connect sink source =>
      exact listed_pair (listed_name (hparts h).1) (listed_name (hparts h).2)
  | disconnect origin destination =>
      exact listed_pair (listed_endpoint (hparts h).1) (listed_endpoint (hparts h).2)

theorem listed_record {r : Located} (h : escapeByte ∉ r.instruction.wire) :
    ∀ segment ∈ record r, segment.Listed := by
  have hoperands : escapeByte ∉ r.instruction.operands :=
    fun hmem => h (List.mem_cons_of_mem _ hmem)
  have hoffset : escape ∉ (Text.paddedHexadecimal 4 r.offset).toList := by
    have hzero : escape ≠ '0' := by decide
    have hdigits : escape ∉ Nat.toDigits 16 r.offset :=
      escape_notMem_toDigits (by decide) (by decide) _
    simp [Text.paddedHexadecimal, Text.padLeft, hzero, hdigits]
  have hletter : escape ∉ r.instruction.opcode.letter.toString.toList := by
    cases r.instruction.opcode <;> decide
  simp only [record, List.forall_mem_append, List.forall_mem_cons]
  exact ⟨⟨⟨⟨.inr rfl, hoffset⟩, listed_plain (by decide), ⟨.inr rfl, hletter⟩,
    listed_plain (by decide), by simp⟩, listed_operands hoperands⟩, listed_plain (by decide),
    by simp⟩

/-- A stream has a coloured and a plain listing, or it has a fault and neither.  Of a stream without
the escape character the coloured listing is the plain one with codes in it. -/
theorem ofStream_erase (stream : Bytes) :
    (∃ fault, ofStream true stream = .error fault ∧ ofStream false stream = .error fault) ∨
      ∃ colored plain, ofStream true stream = .ok colored ∧ ofStream false stream = .ok plain ∧
        (escapeByte ∉ stream → ∀ passes : List (List Code),
          (∀ code, ∃ pass ∈ passes, code ∈ pass) →
            Code.eraseAll passes colored.toList = plain.toList) := by
  cases hrecords : recordsOf stream with
  | error fault =>
      refine .inl ⟨fault, ?_, ?_⟩
      · rw [ofStream, hrecords]
        rfl
      · rw [ofStream, hrecords]
        rfl
  | ok records =>
      refine .inr ⟨Segment.render true (records.flatMap record),
        Segment.render false (records.flatMap record), ?_, ?_, ?_⟩
      · rw [ofStream, hrecords]
        rfl
      · rw [ofStream, hrecords]
        rfl
      · intro hstream passes hpasses
        refine Segment.eraseAll_render hpasses ?_
        intro segment hsegment
        obtain ⟨r, hr, hmem⟩ := List.mem_flatMap.1 hsegment
        obtain ⟨rfl, -, -⟩ := Laid.iff_forall.1 (recordsOf_iff_laid.1 hrecords)
        exact listed_record (fun hbyte => hstream (List.mem_flatMap.2 ⟨r, hr, hbyte⟩)) segment hmem

/-- Two records, one with a string that is a code but for its first character.  The codes are taken
out one after the other. -/
theorem ofStream_erase_code_like :
    escapeByte ∉ [0x75, 0x65, 0, 0x61, 0, 0x73, 0x5B, 0x30, 0x6D, 0, 0x63, 0, 0] ∧
      ∃ colored plain,
        ofStream true [0x75, 0x65, 0, 0x61, 0, 0x73, 0x5B, 0x30, 0x6D, 0, 0x63, 0, 0] =
            .ok colored ∧
          ofStream false [0x75, 0x65, 0, 0x61, 0, 0x73, 0x5B, 0x30, 0x6D, 0, 0x63, 0, 0] =
            .ok plain ∧
          plain = "0000  u  \"e\"  a = \"[0m\"\n000a  c  * *\n" ∧
          Code.eraseAll [[.reset], [.green], [.dim], [.blue]] colored.toList = plain.toList := by
  have hclear : escapeByte ∉ [0x75, 0x65, 0, 0x61, 0, 0x73, 0x5B, 0x30, 0x6D, 0, 0x63, 0, 0] := by
    decide
  have hplain : ofStream false [0x75, 0x65, 0, 0x61, 0, 0x73, 0x5B, 0x30, 0x6D, 0, 0x63, 0, 0] =
      .ok "0000  u  \"e\"  a = \"[0m\"\n000a  c  * *\n" := by
    decide +kernel
  refine ⟨hclear, ?_⟩
  rcases ofStream_erase [0x75, 0x65, 0, 0x61, 0, 0x73, 0x5B, 0x30, 0x6D, 0, 0x63, 0, 0] with
    ⟨fault, -, hfault⟩ | ⟨colored, plain, hcolored, hlisting, herase⟩
  · rw [hplain] at hfault
    cases hfault
  · have hcover : ∀ code : Code,
        ∃ pass ∈ [[Code.reset], [.green], [.dim], [.blue]], code ∈ pass := by
      intro code
      cases code <;> decide
    refine ⟨colored, plain, hcolored, hlisting, ?_, herase hclear _ hcover⟩
    rw [hplain] at hlisting
    exact (Except.ok.inj hlisting).symm

end Listing

end Patchbay
