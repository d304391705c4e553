import Mathlib.Data.List.Forall2
import Patchbay.Proofs.Script.Resumption

/-!
# Layout

How a script is laid out can be changed in many ways that do not change what it says.  This file
names the changes and follows them from the lines of a script to its statements.

* Lines that say nothing can be put in, and blanks can be put behind any line (`Relaid`).  The
  statements stay the same, and only their numbers move (`Relaid.statements_eq`).
* The body of a block can be indented by another number of spaces (`Reindents`).  The statements of
  the body change, but not what stands behind their spaces, so a block that has an instruction keeps
  it (`Reindents.resume_of_ok`).

A line is what stands between two line feeds here, with a carriage return at its end if there is
one: a carriage return is a blank, and blanks at the end of a line do not get into its statement.
-/

namespace Patchbay

namespace Text

/-! ## Blanks behind a text -/

theorem trimEnd_append {blanks : List Char} (h : ∀ c ∈ blanks, isBlank c = true)
    (text : List Char) : trimEnd (text ++ blanks) = trimEnd text := by
  unfold trimEnd
  rw [List.reverse_append, List.dropWhile_append_of_pos]
  intro c hc
  exact h c (List.mem_reverse.1 hc)

theorem isBlank_return : ∀ c ∈ ['\r'], isBlank c = true :=
  List.forall_mem_singleton.2 rfl

theorem eq_trimEnd_append (text : List Char) :
    ∃ blanks, text = trimEnd text ++ blanks ∧ ∀ c ∈ blanks, isBlank c = true := by
  refine ⟨(text.reverse.takeWhile isBlank).reverse, ?_, ?_⟩
  · rw [trimEnd, ← List.reverse_append, List.takeWhile_append_dropWhile, List.reverse_reverse]
  · intro c hc
    exact List.mem_takeWhile_imp (List.mem_reverse.1 hc)

/-- Blanks are taken off the end of a text only up to its last character that is not blank. -/
theorem trimEnd_append_of_ne_nil (front : List Char) {text : List Char} (h : trimEnd text ≠ []) :
    trimEnd (front ++ text) = front ++ trimEnd text := by
  unfold trimEnd at h ⊢
  have hrest : ¬ (text.reverse.dropWhile isBlank).isEmpty = true := by
    rw [List.isEmpty_iff]
    intro hnil
    rw [hnil] at h
    exact h rfl
  rw [List.reverse_append, List.dropWhile_append, if_neg hrest, List.reverse_append,
    List.reverse_reverse]

theorem head?_trimEnd {text : List Char} (h : trimEnd text ≠ []) :
    (trimEnd text).head? = text.head? := by
  obtain ⟨blanks, hsplit, -⟩ := eq_trimEnd_append text
  obtain ⟨c, rest, hcons⟩ := List.exists_cons_of_ne_nil h
  rw [hcons] at hsplit ⊢
  rw [hsplit]
  rfl

/-- The first character that is not blank is found with or without the blanks at the end. -/
theorem head?_trimStart_trimEnd (text : List Char) :
    (trimStart (trimEnd text)).head? = (trimStart text).head? := by
  obtain ⟨blanks, hsplit, hblanks⟩ := eq_trimEnd_append text
  have hnil : blanks.dropWhile isBlank = [] := List.dropWhile_eq_nil_iff.2 hblanks
  conv_rhs => rw [hsplit, trimStart, List.dropWhile_append, hnil]
  unfold trimStart
  split
  · next hempty => rw [List.isEmpty_iff.1 hempty]
  · next hempty =>
      obtain ⟨c, rest, hcons⟩ := List.exists_cons_of_ne_nil (List.isEmpty_iff.not.1 hempty)
      rw [hcons]
      rfl

end Text

namespace Script

/-! ## Lines that say nothing -/

/-- A line is blank, or its first character that is not blank begins a comment. -/
def SaysNothing (line : List Char) : Prop :=
  ∀ c ∈ (Text.trimStart line).head?, c = '#'

theorem isIgnored_iff (line : List Char) :
    Parser.isIgnored (Text.trimEnd line) = true ↔ SaysNothing line := by
  rw [SaysNothing, ← Text.head?_trimStart_trimEnd, Parser.isIgnored]
  cases Text.trimStart (Text.trimEnd line) with
  | nil => simp
  | cons c rest => simp

namespace Statement

theorem ofLine?_eq_none_iff {number : Nat} {line : List Char} :
    ofLine? number line = none ↔ SaysNothing line := by
  rw [← isIgnored_iff]
  constructor
  · exact isIgnored_of_ofLine?_eq_none
  · intro hignored
    cases hline : ofLine? number line with
    | none => rfl
    | some s =>
        obtain ⟨-, htrim, hspeaks⟩ := trimEnd_of_ofLine?_eq_some hline
        rw [htrim, hspeaks] at hignored
        cases hignored

/-- A line has the statement that its text without the blanks at its end has. -/
theorem ofLine?_congr (number : Nat) {line line' : List Char}
    (h : Text.trimEnd line = Text.trimEnd line') : ofLine? number line = ofLine? number line' := by
  unfold ofLine?
  rw [h]

end Statement

/-! ## The statements of lines -/

theorem statements_append (number : Nat) (lines later : List (List Char)) :
    statements number (lines ++ later) =
      statements number lines ++ statements (number + lines.length) later := by
  induction lines generalizing number with
  | nil => rfl
  | cons line lines ih =>
      rw [List.cons_append, statements, statements, ih, List.append_assoc, List.length_cons,
        Nat.add_right_comm, Nat.add_assoc number]

theorem statements_cons_of_saysNothing {line : List Char} (h : SaysNothing line) (number : Nat)
    (lines : List (List Char)) :
    statements number (line :: lines) = statements (number + 1) lines := by
  rw [statements, Statement.ofLine?_eq_none_iff.2 h]
  rfl

theorem statements_congr (number : Nat) {lines lines' : List (List Char)}
    (h : List.Forall₂ (fun line line' => Text.trimEnd line = Text.trimEnd line') lines lines') :
    statements number lines = statements number lines' := by
  induction h generalizing number with
  | nil => rfl
  | cons hline _ ih => rw [statements, statements, Statement.ofLine?_congr number hline, ih]

/-- A statement is that of the line with its number. -/
theorem exists_line_of_mem_statements {number : Nat} {lines : List (List Char)} {s : Statement}
    (h : s ∈ statements number lines) :
    ∃ index line, s.line = number + index ∧ lines[index]? = some line ∧
      Statement.ofLine? s.line line = some s := by
  induction lines generalizing number with
  | nil => cases h
  | cons line lines ih =>
      rw [statements, List.mem_append] at h
      rcases h with hfirst | hlater
      · have hline := Option.mem_toList.1 hfirst
        obtain ⟨hnumber, -, -⟩ := Statement.trimEnd_of_ofLine?_eq_some hline
        refine ⟨0, line, hnumber, rfl, ?_⟩
        rw [hnumber]
        exact hline
      · obtain ⟨index, line', hnumber, hget, hline⟩ := ih hlater
        refine ⟨index + 1, line', ?_, hget, hline⟩
        rw [hnumber]
        omega

/-- The text of the lines of a script can be read off between its line feeds. -/
theorem statements_physicalLines (number : Nat) (text : List Char) :
    statements number (Source.physicalLines text) =
      statements number (Text.pieces (· == '\n') text) := by
  rw [Source.physicalLines]
  generalize Text.pieces (· == '\n') text = pieces
  fun_induction Source.linesOfPieces Source.withoutReturnChar pieces generalizing number with
  | case1 => rfl
  | case2 rest hrest =>
      have hnothing : SaysNothing rest := by
        rw [List.isEmpty_iff.1 hrest]
        intro c hc
        cases hc
      exact (statements_cons_of_saysNothing hnothing number []).symm
  | case3 rest hrest => rfl
  | case4 piece next more ih =>
      have hpiece : Text.trimEnd (Source.withoutReturnChar piece) = Text.trimEnd piece := by
        unfold Source.withoutReturnChar
        split
        · next hlast =>
            obtain ⟨front, rfl⟩ := List.getLast?_eq_some_iff.1 (eq_of_beq hlast)
            rw [List.dropLast_concat, Text.trimEnd_append Text.isBlank_return]
        · rfl
      rw [statements, statements, Statement.ofLine?_congr number hpiece, ih]

/-! ## Lines and blanks put in -/

/-- The number of a line behind `before` lines and one more. -/
def movedBehind (before number : Nat) : Nat :=
  if number ≤ before then number else number + 1

/-- Lines laid out differently.  Line `n` of the first is line `moved n` of the second. -/
inductive Relaid : (Nat → Nat) → List (List Char) → List (List Char) → Prop
  /-- A line that says nothing is put in. -/
  | line (front back : List (List Char)) {line : List Char} (nothing : SaysNothing line) :
      Relaid (movedBehind front.length) (front ++ back) (front ++ line :: back)
  /-- Blanks are put behind a line, before or behind its carriage return if it has one. -/
  | blanks (front back : List (List Char)) (line : List Char) {blanks ending : List Char}
      (blank : ∀ c ∈ blanks, Text.isBlank c = true) (ends : ending = [] ∨ ending = ['\r']) :
      Relaid id (front ++ (line ++ ending) :: back) (front ++ (line ++ blanks ++ ending) :: back)
  /-- All line feeds get a carriage return. -/
  | returns (lines : List (List Char)) (last : List Char) :
      Relaid id (lines ++ [last]) (lines.map (· ++ ['\r']) ++ [last])
  /-- One change is made after another. -/
  | trans {moved moved' : Nat → Nat} {lines lines' lines'' : List (List Char)}
      (first : Relaid moved lines lines') (second : Relaid moved' lines' lines'') :
      Relaid (moved' ∘ moved) lines lines''

theorem map_renumber_id (list : List Statement) : list.map (Statement.renumber id) = list := by
  conv_rhs => rw [← List.map_id list]
  rfl

/-- One line more moves the statements behind it. -/
theorem statements_insert (front back : List (List Char)) {line : List Char}
    (h : SaysNothing line) :
    statements 1 (front ++ line :: back) =
      (statements 1 (front ++ back)).map (Statement.renumber (movedBehind front.length)) := by
  have hfront : (statements 1 front).map (Statement.renumber (movedBehind front.length)) =
      statements 1 front := by
    conv_rhs => rw [← map_renumber_id (statements 1 front)]
    refine List.map_congr_left ?_
    intro s hs
    obtain ⟨index, line', hnumber, hget, -⟩ := exists_line_of_mem_statements hs
    obtain ⟨hlt, -⟩ := List.getElem?_eq_some_iff.1 hget
    have hbefore : s.line ≤ front.length := by omega
    rw [Statement.renumber, movedBehind, if_pos hbefore]
    rfl
  have hback : (statements (1 + front.length) back).map
      (Statement.renumber (movedBehind front.length)) = statements (1 + front.length + 1) back := by
    have hnext : statements (1 + front.length + 1) back =
        (statements (1 + front.length) back).map (Statement.renumber (1 + ·)) := by
      rw [Nat.add_comm (1 + front.length) 1, statements_add]
    rw [hnext]
    refine List.map_congr_left ?_
    intro s hs
    obtain ⟨index, line', hnumber, -, -⟩ := exists_line_of_mem_statements hs
    have hbehind : ¬ s.line ≤ front.length := by omega
    rw [Statement.renumber, movedBehind, if_neg hbehind, Statement.renumber, Nat.add_comm]
  rw [statements_append, statements_append, statements_cons_of_saysNothing h, List.map_append,
    hfront, hback]

theorem Relaid.statements_eq {moved : Nat → Nat} {lines lines' : List (List Char)}
    (h : Relaid moved lines lines') :
    statements 1 lines' = (statements 1 lines).map (Statement.renumber moved) := by
  induction h with
  | line front back nothing => exact statements_insert front back nothing
  | @blanks front back line blanks ending blank ends =>
      have hending : ∀ c ∈ ending, Text.isBlank c = true := by
        rcases ends with rfl | rfl
        · simp
        · exact Text.isBlank_return
      have htrim : Text.trimEnd (line ++ blanks ++ ending) = Text.trimEnd (line ++ ending) := by
        rw [Text.trimEnd_append hending, Text.trimEnd_append blank, Text.trimEnd_append hending]
      rw [map_renumber_id, statements_append, statements_append, statements, statements,
        Statement.ofLine?_congr _ htrim]
  | returns lines last =>
      have hreturns : List.Forall₂ (fun line line' => Text.trimEnd line = Text.trimEnd line')
          (lines.map (· ++ ['\r'])) lines := by
        rw [List.forall₂_map_left_iff, List.forall₂_same]
        intro line _
        exact Text.trimEnd_append Text.isBlank_return line
      rw [map_renumber_id, statements_append, statements_append, statements_congr 1 hreturns,
        List.length_map]
  | trans first second ih ih' =>
      rw [ih', ih, List.map_map]
      rfl

/-! ## Bodies indented differently -/

/-- A line of a body, and the same line behind `width` spaces.  Lines that say nothing are not lines
of the body, and may be any. -/
inductive Reindented (width : Nat) : List Char → List Char → Prop
  | nothing {line line' : List Char} (nothing : SaysNothing line) (nothing' : SaysNothing line') :
      Reindented width line line'
  | body {spaces : Nat} (text : List Char) (indented : 0 < spaces)
      (begins : text.head? ≠ some ' ') :
      Reindented width (List.replicate spaces ' ' ++ text) (List.replicate width ' ' ++ text)

/-- All lines of the body of one block are indented by `width` spaces.  The body goes on up to the
next line that says something and is not indented. -/
inductive Reindents (width : Nat) : List (List Char) → List (List Char) → Prop
  | block (front back : List (List Char)) {header : List Char} {body body' : List (List Char)}
      (opens : header.head? = some 'S' ∨ header.head? = some 'U')
      (reindented : List.Forall₂ (Reindented width) body body')
      (ends : ∀ line ∈ back.head?, ¬ SaysNothing line ∧ line.head? ≠ some ' ') :
      Reindents width (front ++ header :: (body ++ back)) (front ++ header :: (body' ++ back))

/-- Two statements that are indented and say the same behind their spaces. -/
structure Statement.Reindented (width : Nat) (s s' : Statement) : Prop where
  isIndented : s.isIndented = true
  isIndented' : s'.isIndented = true
  indentation : s'.indentation = width
  text : s'.text.drop width = s.text.drop s.indentation

theorem leadingSpaces_replicate (spaces : Nat) {text : List Char} (h : text.head? ≠ some ' ') :
    Text.leadingSpaces (List.replicate spaces ' ' ++ text) = spaces := by
  induction spaces with
  | zero =>
      cases text with
      | nil => rfl
      | cons c text =>
          refine leadingSpaces_cons_of_ne ?_ text
          simpa using h
  | succ spaces ih => rw [List.replicate_succ, List.cons_append, leadingSpaces_cons_space, ih]

theorem saysNothing_replicate (spaces : Nat) (text : List Char) :
    SaysNothing (List.replicate spaces ' ' ++ text) ↔ SaysNothing text := by
  have hblank : ∀ c ∈ List.replicate spaces ' ', Text.isBlank c = true := by
    intro c hc
    rw [List.eq_of_mem_replicate hc]
    decide
  rw [SaysNothing, SaysNothing, Text.trimStart, List.dropWhile_append_of_pos hblank]
  rfl

theorem trimEnd_ne_nil {line : List Char} (h : ¬ SaysNothing line) : Text.trimEnd line ≠ [] := by
  intro hnil
  apply h
  rw [SaysNothing, ← Text.head?_trimStart_trimEnd, hnil]
  simp [Text.trimStart]

/-- An indented line that says something, as a statement. -/
theorem exists_statement_of_spaces (number : Nat) {spaces : Nat} (hspaces : 0 < spaces)
    {text : List Char} (hbegins : text.head? ≠ some ' ') (hspeaks : ¬ SaysNothing text) :
    ∃ s, Statement.ofLine? number (List.replicate spaces ' ' ++ text) = some s ∧
      s.isIndented = true ∧ s.indentation = spaces ∧ s.text.drop spaces = Text.trimEnd text := by
  have hnone : Statement.ofLine? number (List.replicate spaces ' ' ++ text) ≠ none := by
    rw [ne_eq, Statement.ofLine?_eq_none_iff, saysNothing_replicate]
    exact hspeaks
  obtain ⟨s, hs⟩ := Option.ne_none_iff_exists'.1 hnone
  have hne := trimEnd_ne_nil hspeaks
  obtain ⟨-, htext, -⟩ := Statement.trimEnd_of_ofLine?_eq_some hs
  rw [Text.trimEnd_append_of_ne_nil _ hne] at htext
  have hindentation : s.indentation = spaces := by
    rw [Statement.indentation, ← htext]
    refine leadingSpaces_replicate spaces ?_
    rw [Text.head?_trimEnd hne]
    exact hbegins
  refine ⟨s, hs, ?_, hindentation, ?_⟩
  · rw [← s.indentation_pos_iff, hindentation]
    exact hspaces
  · rw [← htext, List.drop_left' (by simp)]

theorem Reindented.statement {width : Nat} (hwidth : 0 < width) {line line' : List Char}
    (h : Reindented width line line') (number : Nat) :
    Option.Rel (Statement.Reindented width) (Statement.ofLine? number line)
      (Statement.ofLine? number line') := by
  cases h with
  | nothing nothing nothing' =>
      rw [Statement.ofLine?_eq_none_iff.2 nothing, Statement.ofLine?_eq_none_iff.2 nothing']
      exact .none
  | body text indented begins =>
      by_cases hspeaks : SaysNothing text
      · rw [Statement.ofLine?_eq_none_iff.2 ((saysNothing_replicate _ text).2 hspeaks),
          Statement.ofLine?_eq_none_iff.2 ((saysNothing_replicate _ text).2 hspeaks)]
        exact .none
      · obtain ⟨s, hs, hspace, hindentation, htext⟩ :=
          exists_statement_of_spaces number indented begins hspeaks
        obtain ⟨s', hs', hspace', hindentation', htext'⟩ :=
          exists_statement_of_spaces number hwidth begins hspeaks
        rw [hs, hs']
        refine .some ⟨hspace, hspace', hindentation', ?_⟩
        rw [htext', hindentation, htext]

theorem forall₂_statements {width : Nat} (hwidth : 0 < width) {lines lines' : List (List Char)}
    (h : List.Forall₂ (Reindented width) lines lines') (number : Nat) :
    List.Forall₂ (Statement.Reindented width) (statements number lines)
      (statements number lines') := by
  induction h generalizing number with
  | nil => exact .nil
  | @cons line line' _ _ hline _ ih =>
      have hstatement := hline.statement hwidth number
      rw [statements, statements]
      generalize Statement.ofLine? number line = said at hstatement ⊢
      generalize Statement.ofLine? number line' = said' at hstatement ⊢
      cases hstatement with
      | none => exact ih (number + 1)
      | some hs => exact .cons hs (ih (number + 1))

/-! ## Blocks indented differently -/

theorem Statement.value_of_indentation {element : String} {width index : Nat} {s : Statement}
    (hwidth : s.indentation = width) (hindex : index < assignmentLimit) :
    s.value element width index = assignment (s.text.drop width) := by
  rw [Statement.value, if_neg (by omega), if_neg (by omega), if_neg (by omega)]

theorem bodyValues_of_reindented {element : String} {width width' index : Nat}
    {body body' : List Statement} (h : List.Forall₂ (Statement.Reindented width') body body')
    {values : List Assignment} (hvalues : bodyValues element width index body = .ok values) :
    bodyValues element width' index body' = .ok values := by
  induction h generalizing index values with
  | nil => exact hvalues
  | @cons s s' body body' hs _ ih =>
      rw [bodyValues] at hvalues ⊢
      cases hvalue : s.value element width index with
      | error fault =>
          rw [hvalue] at hvalues
          cases hvalues
      | ok a =>
          rw [hvalue] at hvalues
          obtain ⟨others, hothers, rfl⟩ := of_map_eq_ok hvalues
          obtain ⟨hwidth, hindex, hassignment⟩ := Statement.index_lt_of_value hvalue
          -- behind the spaces both lines make the same assignment
          have hvalue' : s'.value element width' index = .ok a := by
            rw [Statement.value_of_indentation hs.indentation hindex, hs.text, hwidth, hassignment]
          rw [hvalue']
          simp only [ih hothers]
          rfl

theorem Construct.values_of_reindented {element : String} {following : Option Statement}
    {width : Nat} {body body' : List Statement}
    (h : List.Forall₂ (Statement.Reindented width) body body') {values : List Assignment}
    (hvalues : Construct.values element following body = .ok values) :
    Construct.values element following body' = .ok values := by
  cases h with
  | nil => exact hvalues
  | cons hs hrest =>
      rw [Construct.values, hs.indentation]
      exact bodyValues_of_reindented (.cons hs hrest) hvalues

section

variable {body body' back : List Statement}

/-- The body of a block is the longest run of indented statements behind its header. -/
theorem span_body (hbody : ∀ s ∈ body, s.isIndented = true)
    (hback : ∀ s ∈ back.head?, s.isIndented = false) :
    (body ++ back).takeWhile Statement.isIndented = body ∧
      (body ++ back).dropWhile Statement.isIndented = back := by
  rw [List.takeWhile_append_of_pos hbody, List.dropWhile_append_of_pos hbody]
  cases back with
  | nil => simp
  | cons s back =>
      have hspace : ¬ s.isIndented = true := Bool.eq_false_iff.1 (hback s rfl)
      rw [List.takeWhile_cons_of_neg hspace, List.dropWhile_cons_of_neg hspace, List.append_nil]
      exact ⟨rfl, rfl⟩

theorem isIndented_of_reindented {width : Nat}
    (h : List.Forall₂ (Statement.Reindented width) body body') :
    (∀ s ∈ body, s.isIndented = true) ∧ ∀ s ∈ body', s.isIndented = true := by
  induction h with
  | nil => simp
  | cons hs _ ih =>
      exact ⟨List.forall_mem_cons.2 ⟨hs.isIndented, ih.1⟩,
        List.forall_mem_cons.2 ⟨hs.isIndented', ih.2⟩⟩

theorem resume_opened_of_reindented {width : Nat}
    (h : List.Forall₂ (Statement.Reindented width) body body')
    (hback : ∀ s ∈ back.head?, s.isIndented = false) (kind : BlockKind) (element : String)
    {instructions : List Instruction}
    (hresume : resume (some ⟨kind, element, none, []⟩) (body ++ back) = .ok instructions) :
    resume (some ⟨kind, element, none, []⟩) (body' ++ back) = .ok instructions := by
  obtain ⟨hbody, hbody'⟩ := isIndented_of_reindented h
  obtain ⟨htake, hdrop⟩ := span_body hbody hback
  obtain ⟨htake', hdrop'⟩ := span_body hbody' hback
  rw [resume, htake, hdrop] at hresume
  rw [resume, htake', hdrop']
  simp only [Block.remaining] at hresume ⊢
  cases hvalues : Construct.values element back.head? body with
  | error error =>
      rw [hvalues] at hresume
      cases hresume
  | ok values =>
      rw [hvalues] at hresume
      rw [Construct.values_of_reindented h hvalues]
      exact hresume

/-- What stands behind a header is read with the block of the header, whatever stands before it. -/
theorem resume_cons_of_isHeader {s : Statement} (hheader : s.isHeader = true)
    {rest rest' : List Statement}
    (hrest : ∀ kind element instructions,
      resume (some ⟨kind, element, none, []⟩) rest = .ok instructions →
        resume (some ⟨kind, element, none, []⟩) rest' = .ok instructions)
    (block : Option Block) {instructions : List Instruction}
    (hresume : resume block (s :: rest) = .ok instructions) :
    resume block (s :: rest') = .ok instructions := by
  have hspace : s.isIndented = false := by
    unfold Statement.isHeader at hheader
    unfold Statement.isIndented
    rcases Bool.or_eq_true_iff.1 hheader with hfirst | hfirst <;> rw [eq_of_beq hfirst] <;> rfl
  -- outside of blocks the header opens its own
  have hnone : ∀ instructions, resume none (s :: rest) = .ok instructions →
      resume none (s :: rest') = .ok instructions := by
    intro instructions hresume
    cases hcommand : s.command with
    | error fault =>
        rw [resume_of_command_error hcommand] at hresume
        cases hresume
    | ok c =>
        cases c with
        | complete instruction =>
            rw [Statement.isHeader_of_complete hcommand] at hheader
            cases hheader
        | header kind element =>
            rw [resume_of_header hcommand] at hresume ⊢
            exact hrest kind element instructions hresume
  cases block with
  | none => exact hnone instructions hresume
  | some b =>
      cases hindent : b.indent with
      | none =>
          rw [resume_behind_header hspace hindent] at hresume
          cases hresume
      | some width =>
          rw [resume_behind_body hspace hindent] at hresume ⊢
          obtain ⟨others, hothers, rfl⟩ := of_map_eq_ok hresume
          rw [hnone others hothers]
          rfl

/-- Statements in front do not see which of two rests follows them, as long as one of the rests
means what the other does. -/
theorem resume_append_of_ok (front : List Statement) {rest rest' : List Statement}
    (hrest : ∀ block : Option Block, (∀ b ∈ block, b.Sound) → ∀ instructions,
      resume block rest = .ok instructions → resume block rest' = .ok instructions)
    {block : Option Block} (hblock : ∀ b ∈ block, b.Sound) :
    ∀ instructions, resume block (front ++ rest) = .ok instructions →
      resume block (front ++ rest') = .ok instructions := by
  induction front generalizing block with
  | nil => exact hrest block hblock
  | cons s front ih =>
      refine resume_cons_rel (R := fun x x' => ∀ instructions, x = .ok instructions →
        x' = .ok instructions) ?_ ?_ ?_ ?_ hblock
      · intro block
        rfl
      · intro fault instructions h
        cases h
      · intro i x x' hx instructions h
        obtain ⟨others, hothers, rfl⟩ := of_map_eq_ok h
        rw [hx others hothers]
        rfl
      · intro block hblock
        exact ih hblock

end

/-- A line that says something has a statement that begins as the line does. -/
theorem exists_statement (number : Nat) {line : List Char} (h : ¬ SaysNothing line) :
    ∃ s, Statement.ofLine? number line = some s ∧ line.head? = some s.first := by
  obtain ⟨s, hs⟩ := Option.ne_none_iff_exists'.1 (Statement.ofLine?_eq_none_iff.not.2 h)
  obtain ⟨-, htext, -⟩ := Statement.trimEnd_of_ofLine?_eq_some hs
  refine ⟨s, hs, ?_⟩
  rw [← Text.head?_trimEnd (trimEnd_ne_nil h), htext]
  rfl

/-- A block that has an instruction has the same one with its body indented differently. -/
theorem Reindents.resume_of_ok {width : Nat} (hwidth : 0 < width)
    {lines lines' : List (List Char)} (h : Reindents width lines lines')
    {instructions : List Instruction}
    (hresume : resume none (statements 1 lines) = .ok instructions) :
    resume none (statements 1 lines') = .ok instructions := by
  cases h with
  | @block front back header body body' opens reindented ends =>
      have hspeaks : ¬ SaysNothing header := by
        intro hnothing
        obtain ⟨letter, hletter, hne, hblank⟩ : ∃ letter, header.head? = some letter ∧
            letter ≠ '#' ∧ Text.isBlank letter = false := by
          rcases opens with hletter | hletter
          · exact ⟨'S', hletter, by decide, by decide⟩
          · exact ⟨'U', hletter, by decide, by decide⟩
        obtain ⟨rest, rfl⟩ := List.head?_eq_some_iff.1 hletter
        have htrim : Text.trimStart (letter :: rest) = letter :: rest :=
          List.dropWhile_cons_of_neg (Bool.eq_false_iff.1 hblank)
        refine hne (hnothing letter ?_)
        rw [htrim]
        rfl
      obtain ⟨s, hs, hfirst⟩ := exists_statement (1 + front.length) hspeaks
      have hheader : s.isHeader = true := by
        rw [hfirst, Option.some.injEq, Option.some.injEq] at opens
        simpa [Statement.isHeader] using opens
      -- the block ends at the first line behind the body, which is the same in both layouts
      have hback : ∀ number, ∀ s ∈ (statements number back).head?, s.isIndented = false := by
        intro number s hs
        cases back with
        | nil => cases hs
        | cons line back =>
            obtain ⟨hline, hspace⟩ := ends line rfl
            obtain ⟨s', hs', hfirst'⟩ := exists_statement number hline
            rw [statements, hs'] at hs
            cases hs
            rw [hfirst', ne_eq, Option.some.injEq] at hspace
            simpa [Statement.isIndented] using hspace
      rw [statements_append, statements, hs, statements_append] at hresume ⊢
      rw [← reindented.length_eq]
      -- the lines in front are the same, and a block that is open behind them ends at the header
      refine resume_append_of_ok _ ?_ (by simp) instructions hresume
      intro block _ instructions
      refine resume_cons_of_isHeader hheader ?_ block
      intro kind element instructions
      exact resume_opened_of_reindented (forall₂_statements hwidth reindented _) (hback _) kind
        element

end Script

end Patchbay
