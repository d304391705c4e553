import Patchbay.Diagnostic.Snippet
import Patchbay.Proofs.Script.Layout
import Patchbay.Proofs.Script.Quotes
import Patchbay.Proofs.Value.Texts

/-!
# The marks below a line

The marks of an annotated error are a range of bytes of its line.  They cover the text between the
blanks around the line, and both of their ends are between characters.  In a line of blanks there is
no such text, and one byte is marked instead, which is a whole character only if the first blank has
no more bytes.

`span_valid_iff` says that this is the only case in which the marks go astray.  No fault is ever
found in a line of blanks, so an error can always be shown with the line that it is on.
-/

namespace Patchbay

namespace Text

variable {line : List Char}

theorem exists_first (h : ∃ c ∈ line, isBlank c = false) :
    ∃ front first rest, line = front ++ first :: rest ∧ isBlank first = false ∧
      ∀ c ∈ front, isBlank c = true := by
  obtain ⟨first, hfind⟩ : ∃ first, line.find? (!isBlank ·) = some first := by
    simpa [← Option.isSome_iff_exists] using h
  obtain ⟨hfirst, front, rest, hline, hfront⟩ := List.find?_eq_some_iff_append.1 hfind
  refine ⟨front, first, rest, hline, by simpa using hfirst, ?_⟩
  simpa using hfront

/-- A line that is not blank is a text with blanks around it. -/
theorem exists_tight (h : ∃ c ∈ line, isBlank c = false) :
    ∃ front text back, line = front ++ text ++ back ∧ Tight text ∧
      (∀ c ∈ front, isBlank c = true) ∧ ∀ c ∈ back, isBlank c = true := by
  obtain ⟨front, first, rest, rfl, hfirst, hfront⟩ := exists_first h
  -- the same from the other side, where `first` stops the search at the latest
  have hreversed : ∃ c ∈ (first :: rest).reverse, isBlank c = false := ⟨first, by simp, hfirst⟩
  obtain ⟨back, last, before, hreverse, hlast, hback⟩ := exists_first hreversed
  have hrest : first :: rest = before.reverse ++ [last] ++ back.reverse := by
    rw [← List.reverse_reverse (first :: rest), hreverse]
    simp
  have hhead : (before.reverse ++ [last]).head? = some first := by
    rw [← List.head?_append_of_ne_nil _ (List.concat_ne_nil last before.reverse), ← hrest]
    rfl
  refine ⟨front, before.reverse ++ [last], back.reverse, ?_, ⟨⟨first, hhead, hfirst⟩, ?_⟩, hfront,
    ?_⟩
  · rw [hrest, List.append_assoc front]
  · exact ⟨last, List.getLast?_concat, hlast⟩
  · simpa using hback

theorem trimEnd_of_tight {text : List Char} (h : Tight text) : trimEnd text = text := by
  have hlast : ∃ c ∈ text.reverse.head?, isBlank c = false := by
    rw [List.head?_reverse]
    exact h.last
  have hdrop := dropWhile_of_head? hlast []
  rw [List.append_nil] at hdrop
  rw [trimEnd, hdrop, List.reverse_reverse]

theorem Tight.ne_nil {text : List Char} (h : Tight text) : text ≠ [] := by
  rintro rfl
  obtain ⟨c, hc, -⟩ := h.first
  cases hc

theorem Tight.exists_not_blank {text : List Char} (h : Tight text) :
    ∃ c ∈ text, isBlank c = false := by
  obtain ⟨c, hc, hblank⟩ := h.first
  exact ⟨c, List.mem_of_mem_head? hc, hblank⟩

end Text

namespace Diagnostic

/-! ## Boundaries -/

@[simp] theorem byteLength_nil : byteLength [] = 0 := rfl

@[simp] theorem byteLength_append (front back : List Char) :
    byteLength (front ++ back) = byteLength front + byteLength back := by
  rw [byteLength, Utf8.encode_append, List.length_append]
  rfl

theorem byteLength_cons (c : Char) (text : List Char) :
    byteLength (c :: text) = (Utf8.encodeChar c).length + byteLength text := by
  rw [byteLength, Utf8.encode_cons, List.length_append]
  rfl

theorem byteLength_singleton_add (c : Char) (text : List Char) :
    byteLength [c] + byteLength text = byteLength (c :: text) := by
  rw [← byteLength_append, List.singleton_append]

theorem byteLength_pos_of_ne_nil {text : List Char} (h : text ≠ []) : 0 < byteLength text := by
  obtain ⟨c, rest, rfl⟩ := List.exists_cons_of_ne_nil h
  obtain ⟨count, hcount, -⟩ := Utf8.length_encode_cons c rest
  rw [byteLength, hcount]
  exact Nat.succ_pos count

/-- The offset of a byte that begins a character of the line, or of the end of the line. -/
def Boundary (line : List Char) (offset : ℕ) : Prop :=
  ∃ front back, line = front ++ back ∧ byteLength front = offset

theorem boundary_zero (line : List Char) : Boundary line 0 :=
  ⟨[], line, rfl, rfl⟩

/-- A fault is about the character that the offset is inside of. -/
theorem splitCharacter?_eq_some_iff {offset start : ℕ} {text : List Char}
    {fault : SplitCharacter} :
    splitCharacter? offset start text = some fault ↔
      ∃ front back, text = front ++ fault.character :: back ∧
        fault.start = start + byteLength front ∧ fault.offset = offset ∧ fault.start < offset ∧
          offset < fault.start + byteLength [fault.character] := by
  fun_induction splitCharacter? offset start text with
  | case1 start => simp
  | case2 start c rest hle =>
      -- all characters of the text start behind the offset
      refine iff_of_false (by simp) ?_
      rintro ⟨front, back, -, hstart, -, hlt, -⟩
      omega
  | case3 start c rest next hle hlt =>
      constructor
      · rintro ⟨⟩
        exact ⟨[], rest, rfl, rfl, rfl, Nat.lt_of_not_le hle, hlt⟩
      · rintro ⟨front, back, htext, hstart, rfl, hbefore, -⟩
        cases front with
        | nil =>
            obtain ⟨rfl, rfl⟩ := List.cons.inj htext
            rw [byteLength_nil, Nat.add_zero] at hstart
            rw [← hstart]
        | cons d front =>
            obtain ⟨rfl, -⟩ := List.cons.inj htext
            rw [← byteLength_singleton_add] at hstart
            omega
  | case4 start c rest next hle hlt ih =>
      rw [ih]
      constructor
      · rintro ⟨front, back, rfl, hstart, hoffset, hbefore, hbehind⟩
        refine ⟨c :: front, back, rfl, ?_, hoffset, hbefore, hbehind⟩
        rw [hstart, ← byteLength_singleton_add, ← Nat.add_assoc]
      · rintro ⟨front, back, htext, hstart, hoffset, hbefore, hbehind⟩
        cases front with
        | nil =>
            obtain ⟨rfl, rfl⟩ := List.cons.inj htext
            rw [byteLength_nil, Nat.add_zero] at hstart
            omega
        | cons d front =>
            obtain ⟨rfl, rfl⟩ := List.cons.inj htext
            refine ⟨front, back, rfl, ?_, hoffset, hbefore, hbehind⟩
            rw [hstart, ← byteLength_singleton_add, ← Nat.add_assoc]

/-- A line can be cut at every boundary. -/
theorem splitCharacter?_of_boundary {line : List Char} {offset : ℕ} (h : Boundary line offset) :
    splitCharacter? offset 0 line = none := by
  obtain ⟨front, back, rfl, rfl⟩ := h
  suffices hfrom : ∀ start,
      splitCharacter? (start + byteLength front) start (front ++ back) = none by
    simpa using hfrom 0
  intro start
  induction front generalizing start with
  | nil => cases back <;> simp [splitCharacter?]
  | cons c front ih =>
      have hpos := byteLength_pos_of_ne_nil (List.cons_ne_nil c [])
      rw [List.cons_append, splitCharacter?, ← byteLength_singleton_add, if_neg (by omega),
        if_neg (by omega), ← Nat.add_assoc]
      exact ih _

theorem boundary_one_iff (c : Char) (rest : List Char) :
    Boundary (c :: rest) 1 ↔ (Utf8.encodeChar c).length = 1 := by
  constructor
  · rintro ⟨front, back, hline, hone⟩
    cases front with
    | nil => cases hone
    | cons d front =>
        obtain ⟨rfl, -⟩ := List.cons.inj hline
        have hpos := Utf8.length_encodeChar_pos c
        rw [byteLength_cons] at hone
        omega
  · intro hone
    refine ⟨[c], rest, rfl, ?_⟩
    rw [byteLength_cons, hone]
    rfl

/-! ## What is marked -/

/-- A range of bytes of a line that can be cut out of it. -/
structure Span.Valid (range : Span) (line : List Char) : Prop where
  ordered : range.start ≤ range.stop
  within : range.stop ≤ byteLength line
  first : Boundary line range.start
  last : Boundary line range.stop

/-- A line of blanks only, of which the first has several bytes. -/
def WideBlank (line : List Char) : Prop :=
  (∀ c ∈ line, Text.isBlank c = true) ∧ ∃ c ∈ line.head?, 1 < (Utf8.encodeChar c).length

theorem not_wideBlank {line : List Char} (h : ∃ c ∈ line, Text.isBlank c = false) :
    ¬ WideBlank line := by
  rintro ⟨hblank, -⟩
  obtain ⟨c, hc, hvisible⟩ := h
  rw [hblank c hc] at hvisible
  cases hvisible

/-- The rules that `span` follows: one for lines with a text, and two for lines without. -/
inductive Marks : List Char → Span → Prop
  | text {front text back : List Char} (tight : Text.Tight text)
      (before : ∀ c ∈ front, Text.isBlank c = true) (behind : ∀ c ∈ back, Text.isBlank c = true) :
      Marks (front ++ text ++ back) ⟨byteLength front, byteLength (front ++ text)⟩
  | empty : Marks [] ⟨0, 0⟩
  | blank {c : Char} {rest : List Char} (blanks : ∀ d ∈ c :: rest, Text.isBlank d = true) :
      Marks (c :: rest) ⟨0, 1⟩

theorem span_of_tight {front text back : List Char} (h : Text.Tight text)
    (hfront : ∀ c ∈ front, Text.isBlank c = true) (hback : ∀ c ∈ back, Text.isBlank c = true) :
    span (front ++ text ++ back) = ⟨byteLength front, byteLength (front ++ text)⟩ := by
  have htext : Text.trimEnd text = text := Text.trimEnd_of_tight h
  have hend : Text.trimEnd (front ++ text ++ back) = front ++ text := by
    rw [Text.trimEnd_append hback, Text.trimEnd_append_of_ne_nil, htext]
    rw [htext]
    exact h.ne_nil
  have hstart : Text.trimStart (front ++ text) = text := by
    rw [← hend]
    exact Text.trim_of_tight h hfront hback
  have hpos := byteLength_pos_of_ne_nil h.ne_nil
  simp only [span, hend, hstart, byteLength_append, Nat.add_sub_cancel_right]
  rw [if_pos (by omega)]

theorem span_of_blank {line : List Char} (h : ∀ c ∈ line, Text.isBlank c = true) :
    span line = ⟨0, min 1 (byteLength line)⟩ := by
  have hend : Text.trimEnd line = [] := Text.trimEnd_append h []
  simp only [span, hend, Text.trimStart, List.dropWhile_nil, byteLength_nil, Nat.sub_self,
    Nat.lt_irrefl, if_false, Nat.zero_add]

theorem marks_span (line : List Char) : Marks line (span line) := by
  by_cases h : ∃ c ∈ line, Text.isBlank c = false
  · obtain ⟨front, text, back, rfl, htight, hfront, hback⟩ := Text.exists_tight h
    rw [span_of_tight htight hfront hback]
    exact .text htight hfront hback
  · have hblank : ∀ c ∈ line, Text.isBlank c = true := by simpa using h
    rw [span_of_blank hblank]
    cases line with
    | nil => exact .empty
    | cons c rest =>
        have hpos := byteLength_pos_of_ne_nil (List.cons_ne_nil c rest)
        rw [Nat.min_eq_left hpos]
        exact .blank hblank

section

variable {line : List Char} {range : Span}

theorem Marks.ordered (h : Marks line range) : range.start ≤ range.stop := by
  cases h with
  | text => simp
  | empty => exact Nat.le_refl 0
  | blank => exact Nat.zero_le 1

theorem Marks.within (h : Marks line range) : range.stop ≤ byteLength line := by
  cases h with
  | text => simp
  | empty => exact Nat.le_refl 0
  | blank => exact byteLength_pos_of_ne_nil (List.cons_ne_nil _ _)

theorem Marks.first (h : Marks line range) : Boundary line range.start := by
  cases h with
  | text => exact ⟨_, _, List.append_assoc _ _ _, rfl⟩
  | empty => exact boundary_zero _
  | blank => exact boundary_zero _

/-- The marks end inside a character only if this is the first of a line of blanks. -/
theorem Marks.last_iff (h : Marks line range) : Boundary line range.stop ↔ ¬ WideBlank line := by
  cases h with
  | text tight before behind =>
      refine iff_of_true ⟨_, _, rfl, rfl⟩ (not_wideBlank ?_)
      obtain ⟨c, hc, hvisible⟩ := tight.exists_not_blank
      exact ⟨c, by simp [hc], hvisible⟩
  | empty => exact iff_of_true (boundary_zero _) (by simp [WideBlank])
  | @blank c rest blanks =>
      have hpos := Utf8.length_encodeChar_pos c
      rw [boundary_one_iff]
      simp only [WideBlank, List.head?_cons, Option.mem_def, Option.some_inj, exists_eq_left',
        not_and, Nat.not_lt]
      constructor
      · exact fun hone _ => hone.le
      · exact fun hle => le_antisymm (hle blanks) hpos

theorem Marks.valid_iff (h : Marks line range) : range.Valid line ↔ ¬ WideBlank line :=
  ⟨fun hvalid => h.last_iff.1 hvalid.last,
    fun hwide => ⟨h.ordered, h.within, h.first, h.last_iff.2 hwide⟩⟩

end

/-! ## Lines with a fault -/

/-- No fault is found in a line of blanks. -/
theorem exists_not_blank_of_fault {line : List Char} {parser next : Script.Parser}
    {error : ScriptError} (h : Script.Parser.parse line parser = .ok (.error error) next) :
    ∃ c ∈ line, Text.isBlank c = false := by
  by_contra hblank
  have hsilent : Script.SaysNothing line := by
    have hstart : Text.trimStart line = [] := List.dropWhile_eq_nil_iff.2 (by simpa using hblank)
    rw [Script.SaysNothing, hstart]
    simp
  rw [Script.Parser.parse_of_ignored ((Script.isIgnored_iff line).2 hsilent)] at h
  cases h

/-- An error can be shown with every line but a blank one whose first character has several bytes.
The marks end behind the first byte of this character, and the fault is about this. -/
theorem annotate_eq_error_iff {color : Bool} {error : ScriptError} {line : List Char}
    {path : Option String} {fault : SplitCharacter} :
    annotate color error line path = .error fault ↔
      WideBlank line ∧ fault.offset = 1 ∧ fault.start = 0 ∧ fault.character ∈ line.head? := by
  have hmarks := marks_span line
  have hfault : annotate color error line path = .error fault ↔
      splitCharacter? (span line).stop 0 line = some fault := by
    rw [annotate, Span.fault?, splitCharacter?_of_boundary hmarks.first, Option.none_or]
    cases splitCharacter? (span line).stop 0 line <;> simp
  rw [hfault]
  by_cases hwide : WideBlank line
  · obtain ⟨hblank, c, hhead, hlong⟩ := id hwide
    obtain ⟨rest, rfl⟩ := List.head?_eq_some_iff.1 hhead
    have hstop : (span (c :: rest)).stop = 1 := by
      have hpos := byteLength_pos_of_ne_nil (List.cons_ne_nil c rest)
      rw [span_of_blank hblank, Nat.min_eq_left hpos]
    rw [hstop, splitCharacter?_eq_some_iff, and_iff_right hwide]
    constructor
    · rintro ⟨front, back, hline, hstart, hoffset, hbefore, -⟩
      -- nothing is in front of the character that holds the second byte
      cases front with
      | nil =>
          obtain ⟨rfl, -⟩ := List.cons.inj hline
          exact ⟨hoffset, hstart, rfl⟩
      | cons d front =>
          have hpos' := byteLength_pos_of_ne_nil (List.cons_ne_nil d front)
          omega
    · rintro ⟨hoffset, hstart, hcharacter⟩
      obtain rfl : c = fault.character := Option.some_inj.1 hcharacter
      refine ⟨[], rest, rfl, hstart, hoffset, by omega, ?_⟩
      rw [hstart, byteLength_cons, byteLength_nil]
      omega
  · rw [splitCharacter?_of_boundary (hmarks.last_iff.2 hwide)]
    simp [hwide]

/-- An error is always shown with the line that it is on. -/
theorem annotate_of_fault {line : List Char} {parser next : Script.Parser} {error : ScriptError}
    (h : Script.Parser.parse line parser = .ok (.error error) next) (color : Bool)
    (path : Option String) :
    annotate color error line path = .ok (render color error line path) := by
  have hnone : (span line).fault? line = none := by
    have hwide := not_wideBlank (exists_not_blank_of_fault h)
    rw [Span.fault?, splitCharacter?_of_boundary (marks_span line).first,
      splitCharacter?_of_boundary ((marks_span line).last_iff.2 hwide), Option.none_or]
  rw [annotate, hnone]

/-- The marks can be cut out of every line but one of blanks only whose first character has several
bytes, where they begin with this character and end inside it.  In a line that is not blank, so in
every line with a fault, they cover the text between the blanks. -/
theorem span_valid_iff (line : List Char) :
    ((span line).Valid line ↔ ¬ WideBlank line) ∧
    ((span line).start ≤ (span line).stop ∧ (span line).stop ≤ byteLength line ∧
      Boundary line (span line).start) ∧
    ((∃ c ∈ line, Text.isBlank c = false) →
      ∃ front text back, line = front ++ text ++ back ∧ Text.Tight text ∧
        (∀ c ∈ front, Text.isBlank c = true) ∧ (∀ c ∈ back, Text.isBlank c = true) ∧
          span line = ⟨byteLength front, byteLength (front ++ text)⟩) ∧
    ∀ parser error next, Script.Parser.parse line parser = .ok (.error error) next →
      (span line).Valid line := by
  have hmarks := marks_span line
  refine ⟨hmarks.valid_iff, ⟨hmarks.ordered, hmarks.within, hmarks.first⟩, ?_, ?_⟩
  · intro hvisible
    obtain ⟨front, text, back, rfl, htight, hfront, hback⟩ := Text.exists_tight hvisible
    exact ⟨front, text, back, rfl, htight, hfront, hback, span_of_tight htight hfront hback⟩
  · intro parser error next hfault
    exact hmarks.valid_iff.2 (not_wideBlank (exists_not_blank_of_fault hfault))

/-- An ideographic space has three bytes, and only the first of them is marked. -/
theorem not_valid_span_ideographic_space :
    span ['\u3000'] = ⟨0, 1⟩ ∧ byteLength ['\u3000'] = 3 ∧
      ¬ (span ['\u3000']).Valid ['\u3000'] := by
  have hspan : span ['\u3000'] = ⟨0, 1⟩ := by decide +kernel
  refine ⟨hspan, by decide +kernel, ?_⟩
  rintro ⟨-, -, -, hlast⟩
  rw [hspan, boundary_one_iff] at hlast
  revert hlast
  decide

end Diagnostic

end Patchbay
