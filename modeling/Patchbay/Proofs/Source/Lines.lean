import Patchbay.Proofs.Text.Utf8
import Patchbay.Source.Lines
import Patchbay.Text.Blank

/-!
# The lines of a text

A run reads its script as bytes, and cuts the bytes at line feeds before it knows that they are
text.  This file gives the lines of a text as text: `physicalLines` cuts the characters.  The two
agree by `lines_encode`, because the byte of a line feed, and of a carriage return, is found in the
encoding of no other character.

A script can be cut behind any of its lines: what stands before the cut has these lines and no
others (`rawLines_flatten_take`), and it is a text if they are (`exists_of_content`).
-/

namespace Patchbay.Source

/-! ## Pieces -/

section Pieces

variable {α : Type} {separates : α → Bool}

/-- What stands before the first separator goes to the first piece. -/
theorem pieces_append {front : List α} (hfront : ∀ a ∈ front, separates a = false)
    {back piece : List α} {others : List (List α)}
    (hback : Text.pieces separates back = piece :: others) :
    Text.pieces separates (front ++ back) = (front ++ piece) :: others := by
  induction front with
  | nil => exact hback
  | cons a front ih =>
      have hrest := ih fun b hb => hfront b (List.mem_cons_of_mem a hb)
      rw [List.cons_append, Text.pieces, hfront a List.mem_cons_self, hrest]
      rfl

theorem pieces_of_forall {list : List α} (h : ∀ a ∈ list, separates a = false) :
    Text.pieces separates list = [list] := by
  have hpieces := pieces_append h (show Text.pieces separates [] = [[]] from rfl)
  rwa [List.append_nil] at hpieces

/-- A list with one separator has two pieces. -/
theorem pieces_pair {front back : List α} {mark : α} (hmark : separates mark = true)
    (hfront : ∀ a ∈ front, separates a = false) (hback : ∀ a ∈ back, separates a = false) :
    Text.pieces separates (front ++ mark :: back) = [front, back] := by
  have hrest : Text.pieces separates (mark :: back) = [[], back] := by
    rw [Text.pieces, if_pos hmark, pieces_of_forall hback]
  rw [pieces_append hfront hrest, List.append_nil]

theorem separates_of_mem_pieces {list piece : List α} (hpiece : piece ∈ Text.pieces separates list)
    {a : α} (ha : a ∈ piece) : separates a = false := by
  induction list generalizing piece with
  | nil =>
      rw [Text.pieces, List.mem_singleton] at hpiece
      rw [hpiece] at ha
      cases ha
  | cons b rest ih =>
      rw [Text.pieces] at hpiece
      split at hpiece
      · rcases List.mem_cons.1 hpiece with rfl | hpiece
        · cases ha
        · exact ih hpiece ha
      · next hb =>
          split at hpiece
          · next hnil => exact absurd hnil (Text.pieces_ne_nil separates rest)
          · next first others hsplit =>
              rcases List.mem_cons.1 hpiece with rfl | hpiece
              · rcases List.mem_cons.1 ha with rfl | ha
                · exact Bool.eq_false_iff.2 hb
                · exact ih (by rw [hsplit]; exact List.mem_cons_self) ha
              · exact ih (by rw [hsplit]; exact List.mem_cons_of_mem first hpiece) ha

end Pieces

/-! ## Lines from pieces -/

/-- The lines of the pieces between line feeds: every piece but the last is ended by a line feed,
and the last is a line of its own unless it is empty. -/
def linesOfPieces {α : Type} (withoutReturn : List α → List α) : List (List α) → List (List α)
  | [] => []
  | [rest] => if rest.isEmpty then [] else [rest]
  | piece :: next :: more => withoutReturn piece :: linesOfPieces withoutReturn (next :: more)

/-- The raw lines of the pieces between line feeds. -/
private def rawOfPieces : List Bytes → List Bytes
  | [] => []
  | [rest] => if rest.isEmpty then [] else [rest]
  | piece :: next :: more => (piece ++ [lineFeed]) :: rawOfPieces (next :: more)

private theorem rawLines_eq (script : Bytes) :
    rawLines script = rawOfPieces (Text.pieces (· == lineFeed) script) := by
  induction script with
  | nil => rfl
  | cons b rest ih =>
      obtain ⟨piece, others, hpieces⟩ := List.exists_cons_of_ne_nil
        (Text.pieces_ne_nil (· == lineFeed) rest)
      rw [rawLines, Text.pieces, ih, hpieces]
      by_cases hb : (b == lineFeed) = true
      · rw [if_pos hb, if_pos hb, rawOfPieces, eq_of_beq hb]
        rfl
      · rw [if_neg hb, if_neg hb]
        cases others with
        | nil => cases piece <;> rfl
        | cons next more => rfl

private theorem content_of_no_lineFeed {raw : Bytes} (h : ∀ b ∈ raw, (b == lineFeed) = false) :
    content raw = raw := by
  unfold content
  rw [if_neg]
  intro hlast
  have hmem := List.mem_of_getLast? (eq_of_beq hlast)
  simpa using h lineFeed hmem

private theorem content_append_lineFeed (line : Bytes) :
    content (line ++ [lineFeed]) = withoutReturn line := by
  unfold content
  rw [if_pos (by simp), List.dropLast_concat]

private theorem map_content_rawOfPieces {pieces : List Bytes}
    (h : ∀ piece ∈ pieces, ∀ b ∈ piece, (b == lineFeed) = false) :
    (rawOfPieces pieces).map content = linesOfPieces withoutReturn pieces := by
  fun_induction rawOfPieces pieces with
  | case1 => rfl
  | case2 rest hrest => rw [linesOfPieces, if_pos hrest]; rfl
  | case3 rest hrest =>
      rw [linesOfPieces, if_neg hrest, List.map_singleton,
        content_of_no_lineFeed (h rest List.mem_cons_self)]
  | case4 piece next more ih =>
      rw [linesOfPieces, List.map_cons, content_append_lineFeed,
        ih fun other hother => h other (List.mem_cons_of_mem piece hother)]

theorem lines_eq (script : Bytes) :
    lines script = linesOfPieces withoutReturn (Text.pieces (· == lineFeed) script) := by
  rw [lines, rawLines_eq, map_content_rawOfPieces]
  intro piece hpiece b hb
  exact separates_of_mem_pieces hpiece hb

/-! ## Lines of a text -/

/-- A line of text without one carriage return at its end. -/
def withoutReturnChar (line : List Char) : List Char :=
  if line.getLast? == some '\r' then line.dropLast else line

/-- The lines of a text.  A line ends at a line feed, and one carriage return before it is dropped;
what follows the last line feed is a line unless it is empty. -/
def physicalLines (text : List Char) : List (List Char) :=
  linesOfPieces withoutReturnChar (Text.pieces (· == '\n') text)

theorem pieces_encode (text : List Char) :
    Text.pieces (· == lineFeed) (Utf8.encode text) =
      (Text.pieces (· == '\n') text).map Utf8.encode := by
  induction text with
  | nil => rfl
  | cons c text ih =>
      by_cases hc : c = '\n'
      · subst hc
        have hbyte : Utf8.encodeChar '\n' = [lineFeed] := rfl
        rw [Utf8.encode_cons, hbyte, List.singleton_append, Text.pieces, ih]
        rfl
      · obtain ⟨piece, others, hpieces⟩ := List.exists_cons_of_ne_nil
          (Text.pieces_ne_nil (· == '\n') text)
        have hfront : ∀ b ∈ Utf8.encodeChar c, (b == lineFeed) = false := by
          intro b hb
          rw [beq_eq_false_iff_ne]
          rintro rfl
          exact hc ((Utf8.mem_encodeChar_iff (a := '\n') (by decide)).1 hb)
        have hne : (c == '\n') = false := beq_eq_false_iff_ne.2 hc
        rw [hpieces, List.map_cons] at ih
        rw [Utf8.encode_cons, pieces_append hfront ih, Text.pieces, hne, hpieces]
        rfl

theorem withoutReturn_encode (line : List Char) :
    withoutReturn (Utf8.encode line) = Utf8.encode (withoutReturnChar line) := by
  have hlast := Utf8.getLast?_encode_eq_iff (a := '\r') (by decide) line
  unfold withoutReturn withoutReturnChar
  by_cases h : line.getLast? = some '\r'
  · obtain ⟨front, rfl⟩ := List.getLast?_eq_some_iff.1 h
    have hbyte : Utf8.encodeChar '\r' = [carriageReturn] := rfl
    have hencode : Utf8.encode (front ++ ['\r']) = Utf8.encode front ++ [carriageReturn] := by
      rw [Utf8.encode_append, Utf8.encode_cons, hbyte, Utf8.encode_nil, List.append_nil]
    rw [hencode]
    simp
  · have hbyte : UInt8.ofNat '\r'.toNat = carriageReturn := rfl
    rw [hbyte] at hlast
    rw [if_neg (by rw [beq_iff_eq]; exact fun hbytes => h (hlast.1 hbytes)),
      if_neg (by rw [beq_iff_eq]; exact h)]

theorem isEmpty_encode (line : List Char) : (Utf8.encode line).isEmpty = line.isEmpty := by
  cases line with
  | nil => rfl
  | cons c rest =>
      rw [Utf8.encode_cons]
      simp [Utf8.encodeChar_ne_nil c]

/-- Cutting the bytes of a text into lines is cutting the text. -/
theorem lines_encode (text : List Char) :
    lines (Utf8.encode text) = (physicalLines text).map Utf8.encode := by
  rw [lines_eq, pieces_encode, physicalLines]
  generalize Text.pieces (· == '\n') text = pieces
  fun_induction linesOfPieces withoutReturnChar pieces with
  | case1 => rfl
  | case2 rest hrest =>
      rw [List.map_singleton, linesOfPieces, isEmpty_encode, if_pos hrest, List.map_nil]
  | case3 rest hrest =>
      rw [List.map_singleton, linesOfPieces, isEmpty_encode, if_neg hrest]
  | case4 piece next more ih =>
      rw [List.map_cons, List.map_cons, linesOfPieces, withoutReturn_encode, List.map_cons, ← ih,
        List.map_cons]

/-! ## Texts one behind the other -/

theorem pieces_append_mark {α : Type} {separates : α → Bool} {mark : α}
    (hmark : separates mark = true) (front back : List α) :
    Text.pieces separates (front ++ mark :: back) =
      Text.pieces separates front ++ Text.pieces separates back := by
  induction front with
  | nil =>
      have hback : Text.pieces separates (mark :: back) = [] :: Text.pieces separates back := by
        rw [Text.pieces, if_pos hmark]
      exact hback
  | cons a front ih =>
      obtain ⟨piece, others, hpieces⟩ := List.exists_cons_of_ne_nil
        (Text.pieces_ne_nil separates front)
      rw [List.cons_append, Text.pieces, Text.pieces, ih, hpieces]
      split <;> rfl

theorem length_pieces {α : Type} (separates : α → Bool) (list : List α) :
    (Text.pieces separates list).length = list.countP separates + 1 := by
  induction list with
  | nil => rfl
  | cons a list ih =>
      obtain ⟨piece, others, hpieces⟩ := List.exists_cons_of_ne_nil
        (Text.pieces_ne_nil separates list)
      rw [hpieces] at ih
      rw [Text.pieces, hpieces, List.countP_cons]
      split <;> simp_all

theorem linesOfPieces_append {α : Type} (withoutReturn : List α → List α) (pieces : List (List α))
    {later : List (List α)} (hlater : later ≠ []) :
    linesOfPieces withoutReturn (pieces ++ later) =
      pieces.map withoutReturn ++ linesOfPieces withoutReturn later := by
  induction pieces with
  | nil => rfl
  | cons piece pieces ih =>
      obtain ⟨next, more, hnext⟩ := List.exists_cons_of_ne_nil
        (List.append_ne_nil_of_right_ne_nil pieces hlater)
      rw [List.cons_append, hnext, linesOfPieces, ← hnext, ih]
      rfl

/-- A text that ends where a line ends: it is empty, or its last character is a line feed. -/
def EndsLine (text : List Char) : Prop :=
  text = [] ∨ text.getLast? = some '\n'

theorem physicalLines_append_lineFeed (front back : List Char) :
    physicalLines (front ++ '\n' :: back) =
      (Text.pieces (· == '\n') front).map withoutReturnChar ++ physicalLines back := by
  rw [physicalLines, pieces_append_mark (by rfl),
    linesOfPieces_append withoutReturnChar _ (Text.pieces_ne_nil _ _), physicalLines]

theorem physicalLines_nil : physicalLines [] = [] := rfl

theorem physicalLines_append {text : List Char} (h : EndsLine text) (later : List Char) :
    physicalLines (text ++ later) = physicalLines text ++ physicalLines later := by
  rcases h with rfl | hlast
  · rfl
  · obtain ⟨front, rfl⟩ := List.getLast?_eq_some_iff.1 hlast
    rw [List.append_assoc, List.singleton_append, physicalLines_append_lineFeed,
      physicalLines_append_lineFeed, physicalLines_nil, List.append_nil]

/-- Such a text has as many lines as line feeds. -/
theorem length_physicalLines {text : List Char} (h : EndsLine text) :
    (physicalLines text).length = text.count '\n' := by
  rcases h with rfl | hlast
  · rfl
  · obtain ⟨front, rfl⟩ := List.getLast?_eq_some_iff.1 hlast
    rw [physicalLines_append_lineFeed, physicalLines_nil, List.append_nil, List.length_map,
      length_pieces, List.count_append]
    rfl

/-! ## The first lines of a script -/

theorem rawLines_cons_lineFeed (rest : Bytes) :
    rawLines (lineFeed :: rest) = [lineFeed] :: rawLines rest := rfl

theorem rawLines_cons_of_nil {b : UInt8} (hb : b ≠ lineFeed) {rest : Bytes}
    (hrest : rawLines rest = []) : rawLines (b :: rest) = [[b]] := by
  rw [rawLines, if_neg (by simpa using hb), hrest]

theorem rawLines_cons_of_cons {b : UInt8} (hb : b ≠ lineFeed) {rest line : Bytes}
    {others : List Bytes} (hrest : rawLines rest = line :: others) :
    rawLines (b :: rest) = (b :: line) :: others := by
  rw [rawLines, if_neg (by simpa using hb), hrest]

/-- The first lines of a script are the lines of its beginning. -/
theorem rawLines_flatten_take (script : Bytes) (k : Nat) :
    rawLines ((rawLines script).take k).flatten = (rawLines script).take k := by
  induction script generalizing k with
  | nil => rw [rawLines, List.take_nil, List.flatten_nil, rawLines]
  | cons b rest ih =>
      cases k with
      | zero => rw [List.take_zero, List.flatten_nil, rawLines]
      | succ k =>
          by_cases hb : b = lineFeed
          · rw [hb, rawLines_cons_lineFeed, List.take_succ_cons, List.flatten_cons,
              List.singleton_append, rawLines_cons_lineFeed, ih]
          · cases hrest : rawLines rest with
            | nil =>
                rw [rawLines_cons_of_nil hb hrest, List.take_succ_cons, List.take_nil,
                  List.flatten_singleton, rawLines_cons_of_nil hb rfl]
            | cons line others =>
                -- the beginning of the rest has the same first line
                have hlater := ih (k + 1)
                rw [hrest, List.take_succ_cons, List.flatten_cons] at hlater
                rw [rawLines_cons_of_cons hb hrest, List.take_succ_cons, List.flatten_cons,
                  List.cons_append, rawLines_cons_of_cons hb hlater]

/-- What ends a line is a line feed, with or without a carriage return, or nothing. -/
theorem eq_content_append (raw : Bytes) :
    ∃ ending : List Char, raw = content raw ++ Utf8.encode ending := by
  unfold content withoutReturn
  split
  · next hfeed =>
      obtain ⟨line, rfl⟩ := List.getLast?_eq_some_iff.1 (eq_of_beq hfeed)
      rw [List.dropLast_concat]
      split
      · next hreturn =>
          obtain ⟨front, rfl⟩ := List.getLast?_eq_some_iff.1 (eq_of_beq hreturn)
          rw [List.dropLast_concat]
          exact ⟨['\r', '\n'], List.append_assoc front _ _⟩
      · exact ⟨['\n'], rfl⟩
  · exact ⟨[], (List.append_nil raw).symm⟩

/-- Raw lines whose contents are texts are together a text, and these are its lines. -/
theorem exists_of_content {raws : List Bytes} {texts : List (List Char)}
    (hraws : rawLines raws.flatten = raws) (htexts : raws.map content = texts.map Utf8.encode) :
    ∃ text, Utf8.encode text = raws.flatten ∧ physicalLines text = texts := by
  have hencode : ∃ text, Utf8.encode text = raws.flatten := by
    clear hraws
    induction raws generalizing texts with
    | nil => exact ⟨[], rfl⟩
    | cons raw raws ih =>
        cases texts with
        | nil => cases htexts
        | cons first texts =>
            obtain ⟨hfirst, hothers⟩ := List.cons.inj htexts
            obtain ⟨others, hflatten⟩ := ih hothers
            obtain ⟨ending, hraw⟩ := eq_content_append raw
            refine ⟨first ++ ending ++ others, ?_⟩
            rw [Utf8.encode_append, Utf8.encode_append, ← hfirst, ← hraw, hflatten,
              List.flatten_cons]
  obtain ⟨text, htext⟩ := hencode
  refine ⟨text, htext, ?_⟩
  have hlines := lines_encode text
  rw [htext, lines, hraws, htexts] at hlines
  exact ((List.map_inj_right fun _ _ => Utf8.encode_inj.1).1 hlines).symm

end Patchbay.Source
