import Patchbay.Proofs.Compiler.Meaning
import Patchbay.Proofs.Compiler.Relayout

/-!
# The two forms of an update

One value of an element can be updated on a line of its own, `u element name = literal`, or in a
block of one line behind the header `U element`.  The two forms are taken apart by different means.
On a line of its own the element goes up to the first blank, and the blanks behind it are dropped.
In a block the element is a word of the header, and of the blanks before the assignment only the
spaces are taken for indentation.

Nothing of this can be seen from outside.  Both forms read the element first and then the
assignment, as `updateMeaning` says, and the assignment is the same whatever blanks stand before it
(`assignment_append_blanks`).  So they succeed together, with the same bytes of the assignment, and
fail together, with the same fault (`compile_update_forms`).
-/

namespace Patchbay

/-! ## Blanks before a text -/

namespace Text

theorem trim_append_blanks {blanks : List Char} (h : ∀ c ∈ blanks, isBlank c = true)
    (text : List Char) : trim (blanks ++ text) = trim text := by
  unfold trim
  by_cases htext : trimEnd text = []
  · -- a text of blanks has nothing left with or without more of them
    obtain ⟨more, hmore, hblank⟩ := eq_trimEnd_append text
    rw [htext, List.nil_append] at hmore
    have hall : ∀ c ∈ blanks ++ text, isBlank c = true := by
      rw [hmore]
      exact List.forall_mem_append.2 ⟨h, hblank⟩
    have hempty : trimEnd (blanks ++ text) = [] := trimEnd_append hall []
    rw [hempty, htext]
  · rw [trimEnd_append_of_ne_nil blanks htext, trimStart, List.dropWhile_append_of_pos h]
    rfl

theorem words_of_forall {word : List Char} (hne : word ≠ [])
    (h : ∀ c ∈ word, isBlank c = false) : words word = [word] := by
  rw [words, Source.pieces_of_forall h]
  simp [hne]

theorem splitAtBlank?_append {front : List Char} (hfront : ∀ c ∈ front, isBlank c = false)
    {blank : Char} (hblank : isBlank blank = true) (back : List Char) :
    splitAtBlank? (front ++ blank :: back) = some (front, back) := by
  have hnot : ∀ c ∈ front, (!isBlank c) = true := by
    intro c hc
    rw [hfront c hc]
    rfl
  have hdrop : (front ++ blank :: back).dropWhile (fun c => !isBlank c) = blank :: back := by
    rw [List.dropWhile_append_of_pos hnot, List.dropWhile_cons_of_neg (by simp [hblank])]
  have htake : (front ++ blank :: back).takeWhile (fun c => !isBlank c) = front := by
    rw [List.takeWhile_append_of_pos hnot, List.takeWhile_cons_of_neg (by simp [hblank]),
      List.append_nil]
  rw [splitAtBlank?, hdrop, htake]

end Text

namespace Script

theorem assignment_append_blanks {blanks : List Char} (h : ∀ c ∈ blanks, Text.isBlank c = true)
    (text : List Char) : assignment (blanks ++ text) = assignment text := by
  have hblanks : ∀ c ∈ blanks, (c == '=') = false := by
    intro c hc
    rw [beq_eq_false_iff_ne]
    rintro rfl
    exact absurd (h _ hc) (by decide)
  obtain ⟨left, others, hpieces⟩ := List.exists_cons_of_ne_nil
    (Text.pieces_ne_nil (· == '=') text)
  unfold assignment
  rw [Source.pieces_append hblanks hpieces, hpieces]
  -- the blanks stand before the left side, which is trimmed
  match others with
  | [] => rfl
  | [right] => simp only [Text.trim_append_blanks h]
  | _ :: _ :: _ => rfl

theorem assignment_trimStart (text : List Char) :
    assignment (Text.trimStart text) = assignment text := by
  conv_rhs => rw [← List.takeWhile_append_dropWhile (p := Text.isBlank) (l := text)]
  refine (assignment_append_blanks ?_ _).symm
  intro c hc
  exact List.mem_takeWhile_imp hc

/-! ## The element and the assignment -/

section

variable {element : List Char} (hblank : ∀ c ∈ element, Text.isBlank c = false)

include hblank

theorem updateValue_append {text : List Char} (htext : Text.trimStart text ≠ []) :
    updateValue (element ++ ' ' :: text) =
      (argument element >>= fun name => (assignment text).map (.updateValue name)) := by
  have hsplit := Text.splitAtBlank?_append hblank (show Text.isBlank ' ' = true by rfl) text
  have hrest : ¬ (Text.trimStart text).isEmpty = true := by simpa using htext
  rw [updateValue, hsplit]
  simp only [if_neg hrest, assignment_trimStart]
  cases argument element with
  | error fault => rfl
  | ok name => cases assignment text <;> rfl

variable (hne : element ≠ [])

include hne

theorem trimStart_element (back : List Char) :
    Text.trimStart (' ' :: (element ++ back)) = element ++ back := by
  obtain ⟨c, rest, rfl⟩ := List.exists_cons_of_ne_nil hne
  have hfirst : ¬ Text.isBlank c = true := Bool.eq_false_iff.1 (hblank c List.mem_cons_self)
  rw [Text.trimStart, List.dropWhile_cons_of_pos (by decide), List.cons_append,
    List.dropWhile_cons_of_neg hfirst]

theorem trimEnd_element : Text.trimEnd element = element := by
  obtain ⟨front, c, rfl⟩ := (List.eq_nil_or_concat element).resolve_left hne
  have hlast : ¬ Text.isBlank c = true := Bool.eq_false_iff.1 (hblank c (by simp))
  rw [Text.trimEnd, List.concat_eq_append, List.reverse_append, List.reverse_singleton,
    List.singleton_append, List.dropWhile_cons_of_neg hlast, List.reverse_cons,
    List.reverse_reverse]

theorem command_updateValues :
    command .updateValues element = (argument element).map (Command.header .update) := by
  rw [command, arguments, Text.words_of_forall hne hblank, List.mapM_cons, List.mapM_nil]
  cases argument element <;> rfl

end

/-! ## Scripts of one statement and of one block -/

/-- A line that begins with neither a blank nor the mark of a comment, and goes on with a text that
is not blank. -/
theorem ofLine?_append (number : Nat) {first : Char} (hblank : Text.isBlank first = false)
    (hcomment : first ≠ '#') (front : List Char) {text : List Char}
    (htext : Text.trimEnd text ≠ []) :
    Statement.ofLine? number (first :: (front ++ text)) =
      some ⟨number, first, front ++ Text.trimEnd text⟩ := by
  have hspeaks : Parser.isIgnored (first :: (front ++ Text.trimEnd text)) = false := by
    have hstart : Text.trimStart (first :: (front ++ Text.trimEnd text)) =
        first :: (front ++ Text.trimEnd text) :=
      List.dropWhile_cons_of_neg (Bool.eq_false_iff.1 hblank)
    rw [Parser.isIgnored, hstart]
    exact beq_eq_false_iff_ne.2 hcomment
  have htrim := Text.trimEnd_append_of_ne_nil (first :: front) htext
  rw [List.cons_append, List.cons_append] at htrim
  rw [Statement.ofLine?, htrim]
  simp only [hspeaks, Bool.false_eq_true, if_false]

theorem resume_of_one_command {s : Statement} {answer : Except Fault Instruction}
    (h : s.command = answer.map .complete) :
    resume none [s] = (answer.mapError (ScriptError.mk s.line)).map ([·]) := by
  cases answer with
  | error fault => exact resume_of_command_error h []
  | ok instruction =>
      rw [resume_of_complete h, resume_nil (by simp)]
      rfl

/-- A block of one line is what its assignment says. -/
theorem resume_of_one_line {s : Statement} (hspace : s.isIndented = true) (kind : BlockKind)
    (element : String) :
    resume (some ⟨kind, element, none, []⟩) [s] =
      ((assignment (s.text.drop s.indentation)).mapError (ScriptError.mk s.line)).map
        fun value => [kind.instruction element [value]] := by
  have hvalue : s.value element s.indentation 0 = assignment (s.text.drop s.indentation) :=
    Statement.value_of_indentation rfl (by decide)
  simp only [resume, List.takeWhile_cons_of_pos hspace, List.dropWhile_cons_of_pos hspace,
    List.takeWhile_nil, List.dropWhile_nil, Block.remaining, Construct.values, bodyValues, hvalue,
    constructs, instructionsOf, List.nil_append]
  cases assignment (s.text.drop s.indentation) <;> rfl

/-- Behind its spaces an indented line says what its text says. -/
theorem exists_statement_of_space (number : Nat) {text : List Char} (h : ¬ SaysNothing text) :
    ∃ s, Statement.ofLine? number (' ' :: text) = some s ∧ s.line = number ∧
      s.isIndented = true ∧
        assignment (s.text.drop s.indentation) = assignment (Text.trim text) := by
  have hsplit := eq_spaces_append_drop text
  generalize hspaces : Text.leadingSpaces text = spaces at hsplit
  generalize hback : text.drop spaces = back at hsplit
  have hbegins : back.head? ≠ some ' ' := by
    rw [← hback, ← hspaces, ne_eq, head?_drop_eq_space_iff (Nat.le_refl _)]
    exact Nat.lt_irrefl _
  have hblank : ∀ c ∈ List.replicate spaces ' ', Text.isBlank c = true := by
    intro c hc
    rw [List.eq_of_mem_replicate hc]
    decide
  have hspeaks : ¬ SaysNothing back := by
    rwa [hsplit, saysNothing_replicate] at h
  obtain ⟨s, hs, hspace, hindentation, htext⟩ :=
    exists_statement_of_spaces number (Nat.succ_pos spaces) hbegins hspeaks
  refine ⟨s, ?_, (Statement.trimEnd_of_ofLine?_eq_some hs).1, hspace, ?_⟩
  · rw [← hs, hsplit, List.replicate_succ, List.cons_append]
  · rw [hindentation, htext, hsplit, Text.trim_append_blanks hblank, Text.trim,
      assignment_trimStart]

/-! ## The two forms -/

/-- What an update means whose element is read on line 1 and whose assignment is read on line
`line`. -/
def updateMeaning (line : Nat) (form : String → Assignment → Instruction)
    (element text : List Char) : Except ScriptError (List Instruction) :=
  (argument element).mapError (ScriptError.mk 1) >>= fun name =>
    ((assignment text).mapError (ScriptError.mk line)).map fun value => [form name value]

section

variable {element text : List Char} (hne : element ≠ [])
  (hblank : ∀ c ∈ element, Text.isBlank c = false)

include hne hblank

theorem resume_inline (htext : Text.trim text ≠ []) :
    resume none (statements 1 ['u' :: ' ' :: (element ++ ' ' :: text)]) =
      updateMeaning 1 .updateValue element (Text.trim text) := by
  have hend : Text.trimEnd text ≠ [] := by
    intro hnil
    rw [Text.trim, hnil] at htext
    exact htext rfl
  have hline : Statement.ofLine? 1 ('u' :: ' ' :: (element ++ ' ' :: text)) =
      some ⟨1, 'u', ' ' :: (element ++ ' ' :: Text.trimEnd text)⟩ := by
    have happend := ofLine?_append 1 (show Text.isBlank 'u' = false by decide) (by decide)
      (' ' :: (element ++ [' '])) hend
    simpa using happend
  have hcommand : Statement.command ⟨1, 'u', ' ' :: (element ++ ' ' :: Text.trimEnd text)⟩ =
      (argument element >>= fun name =>
        (assignment (Text.trim text)).map (.updateValue name)).map .complete := by
    have hupdate : Statement.command ⟨1, 'u', ' ' :: (element ++ ' ' :: Text.trimEnd text)⟩ =
        command .updateValue (Text.trimStart (' ' :: (element ++ ' ' :: Text.trimEnd text))) := rfl
    rw [hupdate, trimStart_element hblank hne, command, updateValue_append hblank htext,
      ← assignment_trimStart, Text.trim]
  have hstatements : statements 1 ['u' :: ' ' :: (element ++ ' ' :: text)] =
      [⟨1, 'u', ' ' :: (element ++ ' ' :: Text.trimEnd text)⟩] := by
    rw [statements, hline]
    rfl
  rw [hstatements, resume_of_one_command hcommand, updateMeaning]
  cases argument element with
  | error fault => rfl
  | ok name => cases assignment (Text.trim text) <;> rfl

theorem resume_block (htext : ¬ SaysNothing text) :
    resume none (statements 1 ['U' :: ' ' :: element, ' ' :: text]) =
      updateMeaning 2 (fun name value => .updateValues name [value]) element (Text.trim text) := by
  have hheader : Statement.ofLine? 1 ('U' :: ' ' :: element) = some ⟨1, 'U', ' ' :: element⟩ := by
    have hend : Text.trimEnd element ≠ [] := by rwa [trimEnd_element hblank hne]
    have happend := ofLine?_append 1 (show Text.isBlank 'U' = false by decide) (by decide)
      [' '] hend
    rwa [trimEnd_element hblank hne] at happend
  have hcommand : Statement.command ⟨1, 'U', ' ' :: element⟩ =
      (argument element).map (Command.header .update) := by
    have hupdate : Statement.command ⟨1, 'U', ' ' :: element⟩ =
        command .updateValues (Text.trimStart (' ' :: element)) := rfl
    have htrim := trimStart_element hblank hne []
    rw [List.append_nil] at htrim
    rw [hupdate, htrim, command_updateValues hblank hne]
  obtain ⟨s, hs, hnumber, hspace, hassignment⟩ := exists_statement_of_space 2 htext
  have hstatements : statements 1 ['U' :: ' ' :: element, ' ' :: text] =
      [⟨1, 'U', ' ' :: element⟩, s] := by
    rw [statements, statements, hheader, hs]
    rfl
  rw [hstatements, updateMeaning]
  -- a fault of the header hides the line below it
  cases hargument : argument element with
  | error fault =>
      rw [hargument] at hcommand
      exact resume_of_command_error hcommand [s]
  | ok name =>
      rw [hargument] at hcommand
      rw [resume_of_header hcommand, resume_of_one_line hspace, hassignment, hnumber]
      rfl

end

end Script

open Script

/-- An update on a line of its own. -/
def inlineUpdate (element text : String) : String :=
  "u " ++ element ++ " " ++ text

/-- The same update in a block of one line. -/
def blockUpdate (element text : String) : String :=
  "U " ++ element ++ "\n " ++ text

/-- An element and a text that can stand in either form: the element is a word, and the text is a
part of a line that is neither blank nor a comment. -/
structure UpdateParts (element text : String) : Prop where
  isWord : element ≠ ""
  noBlank : ∀ c ∈ element.toList, Text.isBlank c = false
  oneLine : '\n' ∉ text.toList
  notBlank : Text.trim text.toList ≠ []
  noComment : (Text.trim text.toList).head? ≠ some '#'

theorem ne_feed {line : List Char} (h : '\n' ∉ line) : ∀ c ∈ line, (c == '\n') = false := by
  intro c hc
  exact beq_eq_false_iff_ne.2 (ne_of_mem_of_not_mem hc h)

section

variable {element text : String} (h : UpdateParts element text)

include h

theorem UpdateParts.speaks : ¬ SaysNothing text.toList := by
  intro hnothing
  obtain ⟨c, rest, hcons⟩ := List.exists_cons_of_ne_nil h.notBlank
  have hhead : (Text.trim text.toList).head? = some c := by rw [hcons]; rfl
  have hmark : c = '#' := by
    refine hnothing c ?_
    rw [← Text.head?_trimStart_trimEnd]
    exact hhead
  exact h.noComment (hmark ▸ hhead)

theorem UpdateParts.toList_ne_nil : element.toList ≠ [] := by
  rw [ne_eq, String.toList_eq_nil_iff]
  exact h.isWord

/-- A line feed is a blank. -/
theorem UpdateParts.feed_notMem : '\n' ∉ element.toList := by
  intro hfeed
  exact absurd (h.noBlank _ hfeed) (by decide)

theorem compile_inlineUpdate :
    compile (inlineUpdate element text) =
      compiled [] (updateMeaning 1 .updateValue element.toList (Text.trim text.toList)) := by
  have hscript : (inlineUpdate element text).toList =
      'u' :: ' ' :: (element.toList ++ ' ' :: text.toList) := by
    simp [inlineUpdate]
  have hline : '\n' ∉ 'u' :: ' ' :: (element.toList ++ ' ' :: text.toList) := by
    simp [h.feed_notMem, h.oneLine]
  rw [compile_eq_resume, linesBetween, hscript, Source.pieces_of_forall (ne_feed hline),
    resume_inline h.toList_ne_nil h.noBlank h.notBlank]

theorem compile_blockUpdate :
    compile (blockUpdate element text) =
      compiled [] (updateMeaning 2 (fun name value => .updateValues name [value]) element.toList
        (Text.trim text.toList)) := by
  have hscript : (blockUpdate element text).toList =
      'U' :: ' ' :: element.toList ++ '\n' :: ' ' :: text.toList := by
    simp [blockUpdate]
  have hheader : '\n' ∉ 'U' :: ' ' :: element.toList := by simp [h.feed_notMem]
  have hbody : '\n' ∉ ' ' :: text.toList := by simp [h.oneLine]
  rw [compile_eq_resume, linesBetween, hscript,
    Source.pieces_pair (by rfl) (ne_feed hheader) (ne_feed hbody),
    resume_block h.toList_ne_nil h.noBlank h.speaks]

/-- The records of the two forms, or the fault that both have. -/
theorem update_cases :
    (∃ value : Assignment, assignment (Text.trim text.toList) = .ok value ∧
        compile (inlineUpdate element text) = .ok (0x75 :: (wireString element ++ value.wire)) ∧
          compile (blockUpdate element text) =
            .ok (0x55 :: (wireString element ++ 1 :: value.wire))) ∨
      ∃ fault, compile (inlineUpdate element text) = .error (.script ⟨1, fault⟩) ∧
        compile (blockUpdate element text) =
          .error (.script ⟨if canTravel element.toList then 2 else 1, fault⟩) := by
  rw [compile_inlineUpdate h, compile_blockUpdate h, updateMeaning, updateMeaning, argument]
  split_ifs with htravel
  · rw [String.ofList_toList]
    cases assignment (Text.trim text.toList) with
    | error fault => exact .inr ⟨fault, rfl, rfl⟩
    | ok value =>
        have hinline : [Instruction.updateValue element value].flatMap Instruction.wire =
            0x75 :: (wireString element ++ value.wire) := List.flatMap_singleton _ _
        have hblock : [Instruction.updateValues element [value]].flatMap Instruction.wire =
            0x55 :: (wireString element ++ 1 :: value.wire) := by
          have hvalues : Assignment.wireList [value] = 1 :: value.wire :=
            congrArg (1 :: ·) (List.flatMap_singleton _ _)
          rw [List.flatMap_singleton, ← hvalues]
          rfl
        exact .inl ⟨value, rfl, congrArg Except.ok hinline, congrArg Except.ok hblock⟩
  · exact .inr ⟨_, rfl, rfl⟩

end

/-- The two forms of an update agree.  They succeed together, and write the same assignment behind
the same element; the block also writes that it is one assignment.  They fail together with the same
fault, on the line of the element or on the line of the assignment. -/
theorem compile_update_forms {element text : String} (h : UpdateParts element text) :
    ((∃ stream, compile (inlineUpdate element text) = .ok stream) ↔
      ∃ stream, compile (blockUpdate element text) = .ok stream) ∧
    (∀ stream stream', compile (inlineUpdate element text) = .ok stream →
      compile (blockUpdate element text) = .ok stream' →
        ∃ value : Assignment, assignment (Text.trim text.toList) = .ok value ∧
          stream = 0x75 :: (wireString element ++ value.wire) ∧
            stream' = 0x55 :: (wireString element ++ 1 :: value.wire)) ∧
    ∀ failure, compile (inlineUpdate element text) = .error failure →
      ∃ fault, failure = .script ⟨1, fault⟩ ∧
        compile (blockUpdate element text) =
          .error (.script ⟨if canTravel element.toList then 2 else 1, fault⟩) := by
  rcases update_cases h with ⟨value, hvalue, hinline, hblock⟩ | ⟨fault, hinline, hblock⟩
  · rw [hinline, hblock]
    refine ⟨⟨fun _ => ⟨_, rfl⟩, fun _ => ⟨_, rfl⟩⟩, ?_, ?_⟩
    · rintro stream stream' ⟨⟩ ⟨⟩
      exact ⟨value, hvalue, rfl, rfl⟩
    · intro failure hfailure
      cases hfailure
  · rw [hinline, hblock]
    refine ⟨by simp, ?_, ?_⟩
    · intro stream stream' hstream
      cases hstream
    · rintro failure ⟨⟩
      exact ⟨fault, rfl, rfl⟩

/-- An assignment behind blanks that are no spaces, a value out of range, and an element that cannot
travel. -/
theorem compile_update_forms_blanks :
    (∃ value : Assignment, compile (inlineUpdate "v" "\u3000\t x = 7\r") =
        .ok (0x75 :: (wireString "v" ++ value.wire)) ∧
      compile (blockUpdate "v" "\u3000\t x = 7\r") =
        .ok (0x55 :: (wireString "v" ++ 1 :: value.wire))) ∧
    compile (blockUpdate "v" "  x = y(256)") =
      .error (.script ⟨2, .rejected (.aboveRange "256" "255")⟩) ∧
    compile (blockUpdate "é" "x = 7") = .error (.script ⟨1, .cannotTravel "é"⟩) := by
  have hblanks : UpdateParts "v" "\u3000\t x = 7\r" :=
    ⟨by decide, List.forall_mem_singleton.2 (by decide), by decide, by decide, by decide⟩
  have hrange : UpdateParts "v" "  x = y(256)" :=
    ⟨by decide, List.forall_mem_singleton.2 (by decide), by decide, by decide, by decide⟩
  have htravel : UpdateParts "é" "x = 7" :=
    ⟨by decide, List.forall_mem_singleton.2 (by decide), by decide, by decide, by decide⟩
  have hinline : compile (inlineUpdate "v" "\u3000\t x = 7\r") =
      .ok [0x75, 0x76, 0, 0x78, 0, 0x69, 7, 0] := by
    decide +kernel
  have hinline' : compile (inlineUpdate "v" "  x = y(256)") =
      .error (.script ⟨1, .rejected (.aboveRange "256" "255")⟩) := by
    decide +kernel
  have hinline'' : compile (inlineUpdate "é" "x = 7") =
      .error (.script ⟨1, .cannotTravel "é"⟩) := by
    decide +kernel
  obtain ⟨hiff, hagree, -⟩ := compile_update_forms hblanks
  obtain ⟨stream', hblock⟩ := hiff.1 ⟨_, hinline⟩
  obtain ⟨value, -, hstream, rfl⟩ := hagree _ _ hinline hblock
  obtain ⟨fault, hfault, hblock'⟩ := (compile_update_forms hrange).2.2 _ hinline'
  obtain ⟨fault', hfault', hblock''⟩ := (compile_update_forms htravel).2.2 _ hinline''
  cases hfault
  cases hfault'
  exact ⟨⟨value, hstream ▸ hinline, hblock⟩, hblock', hblock''⟩

end Patchbay
