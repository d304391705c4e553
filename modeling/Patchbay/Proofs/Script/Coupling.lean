import Patchbay.Proofs.Results
import Patchbay.Proofs.Script.Construct

/-!
# The parser and its record builder

The parser and the record builder are two machines, and the lines of a script drive both.  Between
two lines they are always in step, and `Coupled` says how: outside of blocks the builder is empty,
and inside a block it holds the header of the block and nothing else.

What a statement does to a parser in step depends on the statement and on the open block alone.
There are five cases, the constructors of `Reading`, and `Statement.reading` decides between them.
`parse_resting` is the one place where the parser is run: it says that the answer of the parser, the
record that it seals and the state that it is left in are those of the reading.  Everything that is
said about lines elsewhere is a case analysis on readings.
-/

namespace Patchbay

namespace Script

/-! ## Spaces in front of a text -/

theorem leadingSpaces_cons_space (text : List Char) :
    Text.leadingSpaces (' ' :: text) = Text.leadingSpaces text + 1 := by
  simp [Text.leadingSpaces]

theorem leadingSpaces_cons_of_ne {c : Char} (hc : (c == ' ') = false) (text : List Char) :
    Text.leadingSpaces (c :: text) = 0 := by
  simp [Text.leadingSpaces, hc]

/-- Spaces are characters of one byte, so a text can be cut after any number of them. -/
theorem dropBytes?_of_le {text : List Char} {n : Nat} (h : n ≤ Text.leadingSpaces text) :
    Utf8.dropBytes? text n = some (text.drop n) := by
  induction n generalizing text with
  | zero => rw [Utf8.dropBytes?, List.drop_zero]
  | succ n ih =>
      cases text with
      | nil => exact absurd h (Nat.not_succ_le_zero n)
      | cons c text =>
          cases hc : c == ' ' with
          | false =>
              rw [leadingSpaces_cons_of_ne hc] at h
              exact absurd h (Nat.not_succ_le_zero n)
          | true =>
              rw [eq_of_beq hc] at h ⊢
              rw [leadingSpaces_cons_space] at h
              have hsize : (Utf8.encodeChar ' ').length = 1 := rfl
              simp only [Utf8.dropBytes?, hsize, Nat.le_add_left, if_true, Nat.add_sub_cancel,
                List.drop_succ_cons]
              exact ih (Nat.le_of_succ_le_succ h)

/-- After `n` of its leading spaces a text goes on with a space exactly when it has more than
`n` of them. -/
theorem head?_drop_eq_space_iff {text : List Char} {n : Nat} (h : n ≤ Text.leadingSpaces text) :
    (text.drop n).head? = some ' ' ↔ n < Text.leadingSpaces text := by
  induction n generalizing text with
  | zero =>
      cases text with
      | nil => simp [Text.leadingSpaces]
      | cons c text =>
          cases hc : c == ' ' with
          | false =>
              rw [leadingSpaces_cons_of_ne hc]
              simpa using hc
          | true =>
              rw [eq_of_beq hc, leadingSpaces_cons_space]
              simp
  | succ n ih =>
      cases text with
      | nil => exact absurd h (Nat.not_succ_le_zero n)
      | cons c text =>
          cases hc : c == ' ' with
          | false =>
              rw [leadingSpaces_cons_of_ne hc] at h
              exact absurd h (Nat.not_succ_le_zero n)
          | true =>
              rw [eq_of_beq hc, leadingSpaces_cons_space] at h ⊢
              rw [List.drop_succ_cons, ih (Nat.le_of_succ_le_succ h)]
              omega

namespace Statement

theorem indentation_pos_iff (s : Statement) : 0 < s.indentation ↔ s.isIndented = true := by
  unfold indentation text isIndented
  cases h : s.first == ' ' with
  | false => simp [leadingSpaces_cons_of_ne h]
  | true =>
      rw [eq_of_beq h, leadingSpaces_cons_space]
      simp

/-- A line without a statement is one that the parser passes over. -/
theorem isIgnored_of_ofLine?_eq_none {number : Nat} {line : List Char}
    (h : ofLine? number line = none) : Parser.isIgnored (Text.trimEnd line) = true := by
  unfold ofLine? at h
  split at h
  · next hline => rw [hline]; rfl
  · next first rest hline =>
      rw [hline]
      split at h
      · assumption
      · cases h

/-- A line with a statement is one that the parser looks at. -/
theorem trimEnd_of_ofLine?_eq_some {number : Nat} {line : List Char} {s : Statement}
    (h : ofLine? number line = some s) :
    s.line = number ∧ Text.trimEnd line = s.text ∧ Parser.isIgnored s.text = false := by
  unfold ofLine? at h
  split at h
  · cases h
  · next first rest hline =>
      split at h
      · cases h
      · next hspeaks =>
          cases h
          exact ⟨rfl, hline, Bool.eq_false_iff.2 hspeaks⟩

/-- The statement with another number. -/
def onLine (s : Statement) (number : Nat) : Statement :=
  { s with line := number }

theorem ofLine?_eq_map_onLine (m n : Nat) (line : List Char) :
    ofLine? m line = (ofLine? n line).map fun s => s.onLine m := by
  unfold ofLine?
  cases Text.trimEnd line with
  | nil => rfl
  | cons first rest =>
      simp only
      split <;> rfl

end Statement

/-! ## Parsers in step -/

/-- What holds of an open block between two lines. -/
structure Block.Sound (block : Block) : Prop where
  limit : block.assignments.length ≤ assignmentLimit
  indent_eq_none_iff : block.indent = none ↔ block.assignments = []
  /-- Otherwise a line without indentation would belong to the body. -/
  indent_pos : ∀ width ∈ block.indent, 0 < width

/-- The parser and its builder in step between two lines. -/
inductive Parser.Coupled : Parser → Prop
  /-- Outside of blocks the builder is empty. -/
  | outside (line : Nat) : Coupled ⟨line, none, .empty⟩
  /-- Inside a block it holds the opcode and the element of the block, and nothing of its body. -/
  | inside (line start : Nat) {block : Block} (sound : block.Sound) :
      Coupled ⟨line, some block, .drafting start block.header⟩

/-- The parser in step after `line` lines, inside the block if there is one; its record was started
on line `start`. -/
def Parser.resting (line start : Nat) : Option Block → Parser
  | none => ⟨line, none, .empty⟩
  | some block => ⟨line, some block, .drafting start block.header⟩

/-- The parser with a sealed record in its builder, if there is one. -/
def Parser.holding (parser : Parser) : Option Record → Parser
  | none => parser
  | some record => { parser with builder := .sealed record }

namespace Parser

theorem coupled_resting (line start : Nat) {block : Option Block}
    (hblock : ∀ b ∈ block, b.Sound) : (resting line start block).Coupled := by
  cases block with
  | none => exact .outside line
  | some b => exact .inside line start (hblock b rfl)

theorem Coupled.eq_resting {parser : Parser} (h : parser.Coupled) :
    ∃ start, parser = resting parser.line start parser.block := by
  cases h with
  | outside line => exact ⟨0, rfl⟩
  | inside line start sound => exact ⟨start, rfl⟩

theorem Coupled.sound {parser : Parser} (h : parser.Coupled) : ∀ b ∈ parser.block, b.Sound := by
  cases h with
  | outside line =>
      intro b hb
      cases hb
  | inside line start sound =>
      rintro b ⟨⟩
      exact sound

end Parser

/-! ## Readings -/

/-- What a statement means to a parser in step. -/
inductive Reading where
  | faulty (fault : Fault)
  /-- It is an instruction of its own. -/
  | complete (instruction : Instruction)
  | opened (block : Block)
  /-- It belongs to the open block, which is now the given one. -/
  | extended (block : Block)
  /-- It stands behind the open block. -/
  | ended (block : Block)
deriving DecidableEq, Repr

/-- The indentation of the body of a block; the first line fixes it. -/
def Block.width (block : Block) (s : Statement) : Nat :=
  block.indent.getD s.indentation

/-- The block after one more line of its body. -/
def Block.extend (block : Block) (s : Statement) : Except Fault Block :=
  (s.value block.element (block.width s) block.assignments.length).map fun a =>
    { block with indent := some (block.width s), assignments := block.assignments ++ [a] }

theorem Block.width_of_none {block : Block} (h : block.indent = none) (s : Statement) :
    block.width s = s.indentation := by
  rw [Block.width, h, Option.getD_none]

theorem Block.width_of_some {block : Block} {indent : Nat} (h : block.indent = some indent)
    (s : Statement) : block.width s = indent := by
  rw [Block.width, h, Option.getD_some]

theorem Block.with_indent {block : Block} {width : Nat} (h : block.indent = some width) :
    { block with indent := some width } = block := by
  rw [← h]

/-- A line of the body gives one assignment, and changes neither opcode nor element. -/
theorem Block.eq_of_extend {block longer : Block} {s : Statement}
    (h : block.extend s = .ok longer) :
    ∃ a, s.value block.element (block.width s) block.assignments.length = .ok a ∧
      longer = { block with
        indent := some (block.width s)
        assignments := block.assignments ++ [a] } := by
  obtain ⟨a, hvalue, rfl⟩ := of_map_eq_ok h
  exact ⟨a, hvalue, rfl⟩

theorem Block.header_of_extend {block longer : Block} {s : Statement}
    (h : block.extend s = .ok longer) : longer.header = block.header := by
  obtain ⟨a, -, rfl⟩ := Block.eq_of_extend h
  rfl

/-- A value is given only below the limit. -/
theorem Statement.index_lt_of_value {element : String} {width index : Nat} {s : Statement}
    {a : Assignment} (h : s.value element width index = .ok a) :
    s.indentation = width ∧ index < assignmentLimit ∧ assignment (s.text.drop width) = .ok a := by
  unfold Statement.value at h
  split at h
  · cases h
  · split at h
    · cases h
    · split at h
      · cases h
      · exact ⟨by omega, by omega, h⟩

theorem Block.sound_of_extend {block longer : Block} {s : Statement}
    (hspace : s.isIndented = true) (h : block.extend s = .ok longer) : longer.Sound := by
  obtain ⟨a, hvalue, rfl⟩ := Block.eq_of_extend h
  obtain ⟨hwidth, hindex, -⟩ := Statement.index_lt_of_value hvalue
  refine ⟨?_, by simp, ?_⟩
  · simp only [List.length_append, List.length_singleton]
    omega
  · rintro width ⟨⟩
    rw [← hwidth]
    exact s.indentation_pos_iff.2 hspace

/-- What a statement means, inside a block or outside of blocks. -/
def Statement.reading (s : Statement) : Option Block → Reading
  | none =>
      match s.command with
      | .error fault => .faulty fault
      | .ok (.complete instruction) => .complete instruction
      | .ok (.header kind element) => .opened ⟨kind, element, none, []⟩
  | some block =>
      if s.isIndented then
        match block.extend s with
        | .error fault => .faulty fault
        | .ok longer => .extended longer
      else
        match block.indent with
        | none => .faulty .notIndented
        | some _ => .ended block

namespace Statement

section

variable {s : Statement} {block : Block}

theorem reading_of_command_error {fault : Fault} (h : s.command = .error fault) :
    s.reading none = .faulty fault := by
  simp only [reading, h]

theorem reading_of_complete {instruction : Instruction}
    (h : s.command = .ok (.complete instruction)) : s.reading none = .complete instruction := by
  simp only [reading, h]

theorem reading_of_header {kind : BlockKind} {element : String}
    (h : s.command = .ok (.header kind element)) :
    s.reading none = .opened ⟨kind, element, none, []⟩ := by
  simp only [reading, h]

theorem reading_of_extend_error (hspace : s.isIndented = true) {fault : Fault}
    (h : block.extend s = .error fault) : s.reading (some block) = .faulty fault := by
  simp only [reading, hspace, h, if_true]

theorem reading_of_extend_ok (hspace : s.isIndented = true) {longer : Block}
    (h : block.extend s = .ok longer) : s.reading (some block) = .extended longer := by
  simp only [reading, hspace, h, if_true]

theorem reading_behind_header (hspace : s.isIndented = false) (h : block.indent = none) :
    s.reading (some block) = .faulty .notIndented := by
  simp [reading, hspace, h]

/-- Only the open block can be ended. -/
theorem eq_of_reading_ended {opened : Option Block} (h : s.reading opened = .ended block) :
    opened = some block := by
  unfold reading at h
  split at h
  · split at h <;> cases h
  · split at h
    · split at h <;> cases h
    · split at h
      · cases h
      · cases h
        rfl

theorem reading_behind_body (hspace : s.isIndented = false) {width : Nat}
    (h : block.indent = some width) : s.reading (some block) = .ended block := by
  simp [reading, hspace, h]

end

end Statement

/-- The rules that `reading` follows: three for a statement outside of blocks, four for one inside a
block. -/
inductive Statement.Reads (s : Statement) : Option Block → Reading → Prop
  | wrongCommand {fault : Fault} (command : s.command = .error fault) : Reads s none (.faulty fault)
  | command {instruction : Instruction} (command : s.command = .ok (.complete instruction)) :
      Reads s none (.complete instruction)
  | header {kind : BlockKind} {element : String} (command : s.command = .ok (.header kind element)) :
      Reads s none (.opened ⟨kind, element, none, []⟩)
  | wrongBody {block : Block} {fault : Fault} (indented : s.isIndented = true)
      (extend : block.extend s = .error fault) : Reads s (some block) (.faulty fault)
  | body {block longer : Block} (indented : s.isIndented = true)
      (extend : block.extend s = .ok longer) : Reads s (some block) (.extended longer)
  | behindHeader {block : Block} (indented : s.isIndented = false) (indent : block.indent = none) :
      Reads s (some block) (.faulty .notIndented)
  | behindBody {block : Block} {width : Nat} (indented : s.isIndented = false)
      (indent : block.indent = some width) : Reads s (some block) (.ended block)

theorem Statement.reads_reading (s : Statement) (block : Option Block) :
    s.Reads block (s.reading block) := by
  unfold reading
  split
  · split
    · next h => exact .wrongCommand h
    · next h => exact .command h
    · next h => exact .header h
  · split
    · next hspace =>
        split
        · next h => exact .wrongBody hspace h
        · next h => exact .body hspace h
    · next hspace =>
        split
        · next h => exact .behindHeader (Bool.eq_false_iff.2 hspace) h
        · next h => exact .behindBody (Bool.eq_false_iff.2 hspace) h

theorem Statement.reads_of_eq {s : Statement} {block : Option Block} {reading : Reading}
    (h : s.reading block = reading) : s.Reads block reading :=
  h ▸ s.reads_reading block

namespace Reading

/-- What the parser answers, when the statement is on the given line. -/
def answer (line : Nat) : Reading → Except ScriptError Outcome
  | faulty fault => .error ⟨line, fault⟩
  | complete _ => .ok .taken
  | opened block => .ok (.opened block)
  | extended _ => .ok .taken
  | ended block => .ok (.ended block)

/-- The record that the parser seals. -/
def record? (line start : Nat) : Reading → Option Record
  | faulty _ => none
  | complete instruction => some ⟨line, instruction.description, instruction.wire⟩
  | opened _ => none
  | extended _ => none
  | ended block => some ⟨start, block.instruction.description, block.instruction.wire⟩

/-- The parser after the statement on the given line, once the record has been taken.  A statement
that ends a block has not been counted yet. -/
def settled (line start : Nat) : Reading → Parser
  | faulty _ => .resting line start none
  | complete _ => .resting line start none
  | opened block => .resting line line (some block)
  | extended block => .resting line start (some block)
  | ended _ => .resting (line - 1) start none

end Reading

/-! ## Running the parser -/

namespace Parser

@[simp] theorem run_setLine (line : Nat) (parser : Parser) :
    setLine line parser = .ok () { parser with line } := rfl

@[simp] theorem run_setBlock (block : Option Block) (parser : Parser) :
    setBlock block parser = .ok () { parser with block } := rfl

theorem parse_of_ignored {line : List Char} (h : isIgnored (Text.trimEnd line) = true)
    (parser : Parser) :
    parse line parser = .ok (.ok .taken) { parser with line := parser.line + 1 } := by
  simp only [parse, countedLine, h, run_bind, run_get, run_setLine, if_true, run_pure]

/-- A line of a body that is not indented too little. -/
theorem bodyLine_eq (block : Block) {width : Nat} {s : Statement} (hwidth : width ≤ s.indentation)
    (hlimit : block.assignments.length ≤ assignmentLimit) (parser : Parser) :
    bodyLine block width s.text parser =
      match s.value block.element width block.assignments.length with
      | .error fault => .ok (.error fault) parser
      | .ok a =>
          .ok (.ok .taken)
            { parser with
              block := some { block with assignments := block.assignments ++ [a] } } := by
  -- the parser looks at the character behind the cut, the statement counts spaces
  have hspace : ((s.text.drop width).head? == some ' ') = decide (width < s.indentation) := by
    rw [Bool.eq_iff_iff, beq_iff_eq, decide_eq_true_eq]
    exact head?_drop_eq_space_iff hwidth
  have hfull : (block.assignments.length == assignmentLimit) =
      decide (assignmentLimit ≤ block.assignments.length) := by
    rw [Bool.eq_iff_iff, beq_iff_eq, decide_eq_true_eq]
    omega
  unfold bodyLine Statement.value
  rw [dropBytes?_of_le hwidth]
  simp only [hspace, hfull, decide_eq_true_eq, if_neg (Nat.not_lt.2 hwidth)]
  split
  · rfl
  · split
    · rfl
    · cases assignment (s.text.drop width) <;> rfl

theorem parse_of_ok {line : List Char} {n : Nat} {block : Option Block} {builder : RecordBuilder}
    {outcome : Outcome} {next : Parser}
    (h : countedLine line ⟨n + 1, block, builder⟩ = .ok (.ok outcome) next) :
    parse line ⟨n, block, builder⟩ = .ok (.ok outcome) next := by
  simp only [parse, run_bind, run_get, run_setLine, h, run_pure]

/-- A fault drops the record under construction, whatever has been built of it. -/
theorem parse_of_fault {line : List Char} {n m : Nat} {block block' : Option Block}
    {builder builder' : RecordBuilder} {fault : Fault}
    (h : countedLine line ⟨n + 1, block, builder⟩ = .ok (.error fault) ⟨m, block', builder'⟩)
    (hbuilder : ∀ record, builder' ≠ .sealed record) :
    parse line ⟨n, block, builder⟩ = .ok (.error ⟨m, fault⟩) ⟨m, none, .empty⟩ := by
  -- abandoning fails on a sealed record only
  have habandon : build RecordBuilder.abandon ⟨m, block', builder'⟩ =
      .ok () ⟨m, block', .empty⟩ := by
    cases builder' with
    | empty => rfl
    | drafting start bytes => rfl
    | sealed record => exact absurd rfl (hbuilder record)
  simp only [parse, run_bind, run_get, run_setLine, h, habandon, run_setBlock, run_pure]

theorem countedLine_of_statement {line : List Char} {s : Statement} {n : Nat}
    (hs : Statement.ofLine? n line = some s) (parser : Parser) :
    countedLine line parser =
      match parser.block with
      | none => commandLine s.text parser
      | some block => blockLine block s.text parser := by
  obtain ⟨-, htrim, hspeaks⟩ := Statement.trimEnd_of_ofLine?_eq_some hs
  obtain ⟨m, block, builder⟩ := parser
  simp only [countedLine, htrim, hspeaks]
  rw [if_neg Bool.false_ne_true, run_bind, run_get]
  cases block <;> rfl

/-! ### Outside of blocks -/

theorem commandLine_of_error {s : Statement} {fault : Fault} (h : s.command = .error fault)
    (n : Nat) :
    ∃ builder, (∀ record, builder ≠ .sealed record) ∧
      commandLine s.text ⟨n, none, .empty⟩ = .ok (.error fault) ⟨n, none, builder⟩ := by
  unfold Statement.command Statement.isIndented at h
  unfold commandLine Statement.text
  split at h
  · next hspace =>
      cases h
      exact ⟨.empty, by simp, by simp only [hspace, if_true, run_pure]⟩
  · next hspace =>
      simp only [if_neg hspace]
      split at h
      · next hopcode =>
          cases h
          exact ⟨.empty, by simp, by simp only [hopcode, run_pure]⟩
      · next opcode hopcode =>
          -- the record has been started when the arguments turn out to be wrong
          refine ⟨.drafting n [], by simp, ?_⟩
          simp only [hopcode, h, run_bind, run_get]
          rfl

theorem commandLine_of_ok {s : Statement} {c : Command} (h : s.command = .ok c) (n : Nat) :
    commandLine s.text ⟨n, none, .empty⟩ =
      (Except.ok <$> perform c) ⟨n, none, .drafting n []⟩ := by
  unfold Statement.command Statement.isIndented at h
  unfold commandLine Statement.text
  split at h
  · cases h
  · next hspace =>
      simp only [if_neg hspace]
      split at h
      · cases h
      · next opcode hopcode =>
          simp only [hopcode, h, run_bind, run_get]
          rfl

/-- A statement outside of blocks. -/
theorem parse_outside {line : List Char} {s : Statement} {n : Nat}
    (hs : Statement.ofLine? (n + 1) line = some s) (start : Nat) :
    parse line (resting n start none) = .ok ((s.reading none).answer (n + 1))
      (((s.reading none).settled (n + 1) start).holding
        ((s.reading none).record? (n + 1) start)) := by
  have hcounted := countedLine_of_statement hs ⟨n + 1, none, .empty⟩
  cases hcommand : s.command with
  | error fault =>
      obtain ⟨builder, hbuilder, hline⟩ := commandLine_of_error hcommand (n + 1)
      rw [Statement.reading_of_command_error hcommand]
      exact parse_of_fault (hcounted.trans hline) hbuilder
  | ok c =>
      have hline := hcounted.trans (commandLine_of_ok hcommand (n + 1))
      cases c with
      | complete instruction =>
          rw [Statement.reading_of_complete hcommand]
          exact parse_of_ok hline
      | header kind element =>
          rw [Statement.reading_of_header hcommand]
          exact parse_of_ok hline

/-! ### Inside a block -/

theorem leaveBlock_eq {block : Block} (hlimit : block.assignments.length ≤ assignmentLimit)
    (n start : Nat) :
    leaveBlock block ⟨n, some block, .drafting start block.header⟩ =
      .ok () ⟨n, none,
        .sealed ⟨start, block.instruction.description, block.instruction.wire⟩⟩ := by
  simp only [leaveBlock, run_bind, run_setBlock, if_neg (Nat.not_lt.2 hlimit)]
  rw [← block.header_append_wireList]
  rfl

/-- A line that is indented far enough is a line of the body. -/
theorem blockLine_of_le {block : Block} {s : Statement} (hspace : s.isIndented = true)
    (hle : block.width s ≤ s.indentation) (n : Nat) (builder : RecordBuilder) :
    blockLine block s.text ⟨n, some block, builder⟩ =
      bodyLine { block with indent := some (block.width s) }
        (block.width s) s.text
        ⟨n, some { block with indent := some (block.width s) }, builder⟩ := by
  unfold blockLine
  cases hindent : block.indent with
  | none =>
      have hnonzero : (Text.leadingSpaces s.text == 0) = false :=
        beq_eq_false_iff_ne.2 (Nat.pos_iff_ne_zero.1 (s.indentation_pos_iff.2 hspace))
      simp only [hnonzero, Block.width_of_none hindent]
      rfl
  | some width =>
      rw [Block.width_of_some hindent] at hle ⊢
      have hle' : width ≤ Text.leadingSpaces s.text := hle
      simp only [if_pos hle', Block.with_indent hindent]

theorem blockLine_of_short {block : Block} {s : Statement} (hspace : s.isIndented = true)
    {width : Nat} (hindent : block.indent = some width) (hshort : s.indentation < width) :
    blockLine block s.text = pure (.error .indentedTooLittle) := by
  have hpos : 0 < Text.leadingSpaces s.text := s.indentation_pos_iff.2 hspace
  have hle : ¬ width ≤ Text.leadingSpaces s.text := Nat.not_le.2 hshort
  simp only [blockLine, hindent, if_neg hle, if_pos hpos]

theorem blockLine_of_indented {block : Block} (hblock : block.Sound) {s : Statement}
    (hspace : s.isIndented = true) (n : Nat) (builder : RecordBuilder) :
    blockLine block s.text ⟨n, some block, builder⟩ =
      match block.extend s with
      | .error fault =>
          .ok (.error fault)
            ⟨n, some { block with indent := some (block.width s) }, builder⟩
      | .ok longer => .ok (.ok .taken) ⟨n, some longer, builder⟩ := by
  by_cases hle : block.width s ≤ s.indentation
  · rw [blockLine_of_le hspace hle n builder]
    unfold Block.extend
    generalize block.width s = width at hle ⊢
    have hbody := bodyLine_eq { block with indent := some width } hle hblock.limit
      ⟨n, some { block with indent := some width }, builder⟩
    rw [hbody]
    cases s.value block.element width block.assignments.length <;> rfl
  · -- only a line after the first can be indented too little
    cases hindent : block.indent with
    | none =>
        rw [Block.width_of_none hindent] at hle
        exact absurd (Nat.le_refl _) hle
    | some width =>
        rw [Block.width_of_some hindent, Nat.not_le] at hle
        have hextend : block.extend s = .error .indentedTooLittle := by
          simp only [Block.extend, Block.width_of_some hindent, Statement.value, if_pos hle]
          rfl
        rw [blockLine_of_short hspace hindent hle, hextend, Block.width_of_some hindent,
          Block.with_indent hindent, run_pure]

theorem blockLine_of_unindented {block : Block} (hblock : block.Sound) {s : Statement}
    (hspace : s.isIndented = false) (n start : Nat) :
    blockLine block s.text ⟨n + 1, some block, .drafting start block.header⟩ =
      match block.indent with
      | none => .ok (.error .notIndented) ⟨n + 1, some block, .drafting start block.header⟩
      | some _ =>
          .ok (.ok (.ended block)) ⟨n, none,
            .sealed ⟨start, block.instruction.description, block.instruction.wire⟩⟩ := by
  -- no indentation is less than any, because that of a body is never zero
  have hzero : Text.leadingSpaces s.text = 0 := by
    have hpos := s.indentation_pos_iff
    rw [hspace] at hpos
    exact Nat.eq_zero_of_not_pos fun h => Bool.false_ne_true (hpos.1 h)
  unfold blockLine
  cases hindent : block.indent with
  | none =>
      simp only [hzero]
      rfl
  | some width =>
      have hwidth := hblock.indent_pos width hindent
      have hleave := leaveBlock_eq hblock.limit (n + 1) start
      simp only [hzero, Nat.le_zero, Nat.pos_iff_ne_zero.1 hwidth, if_false, Nat.lt_irrefl]
      simp only [run_bind, hleave]
      rfl

/-- A statement inside a block. -/
theorem parse_inside {line : List Char} {s : Statement} {n : Nat}
    (hs : Statement.ofLine? (n + 1) line = some s) (start : Nat) {block : Block}
    (hblock : block.Sound) :
    parse line (resting n start (some block)) = .ok ((s.reading (some block)).answer (n + 1))
      (((s.reading (some block)).settled (n + 1) start).holding
        ((s.reading (some block)).record? (n + 1) start)) := by
  have hcounted := countedLine_of_statement hs ⟨n + 1, some block, .drafting start block.header⟩
  -- an indented line belongs to the block; any other line ends it, or is at fault
  cases hspace : s.isIndented with
  | true =>
      have hline := hcounted.trans (blockLine_of_indented hblock hspace (n + 1) _)
      cases hextend : block.extend s with
      | error fault =>
          rw [hextend] at hline
          rw [Statement.reading_of_extend_error hspace hextend]
          exact parse_of_fault hline (by simp)
      | ok longer =>
          rw [hextend, ← Block.header_of_extend hextend] at hline
          rw [Statement.reading_of_extend_ok hspace hextend, resting,
            ← Block.header_of_extend hextend]
          exact parse_of_ok hline
  | false =>
      have hline := hcounted.trans (blockLine_of_unindented hblock hspace n start)
      cases hindent : block.indent with
      | none =>
          rw [hindent] at hline
          rw [Statement.reading_behind_header hspace hindent]
          exact parse_of_fault hline (by simp)
      | some width =>
          rw [hindent] at hline
          rw [Statement.reading_behind_body hspace hindent]
          exact parse_of_ok hline

/-- What a statement does to a parser in step. -/
theorem parse_resting {line : List Char} {s : Statement} {n : Nat}
    (hs : Statement.ofLine? (n + 1) line = some s) (start : Nat) {block : Option Block}
    (hblock : ∀ b ∈ block, b.Sound) :
    parse line (resting n start block) = .ok ((s.reading block).answer (n + 1))
      (((s.reading block).settled (n + 1) start).holding
        ((s.reading block).record? (n + 1) start)) := by
  cases block with
  | none => exact parse_outside hs start
  | some b => exact parse_inside hs start (hblock b rfl)

/-- What the end of the script does to a parser in step. -/
theorem close_resting (n start : Nat) {block : Option Block} (hblock : ∀ b ∈ block, b.Sound) :
    close (resting n start block) = .ok block
      ((resting n start none).holding
        (block.map fun b => ⟨start, b.instruction.description, b.instruction.wire⟩)) := by
  cases block with
  | none => rfl
  | some b =>
      have hleave := leaveBlock_eq (hblock b rfl).limit n start
      simp only [close, resting, run_bind, run_get, hleave]
      rfl

/-- Taking the record leaves the parser settled. -/
theorem release_holding (reading : Reading) (line start : Nat) :
    build RecordBuilder.releaseSealed?
        ((reading.settled line start).holding (reading.record? line start)) =
      .ok (reading.record? line start) (reading.settled line start) := by
  cases reading <;> rfl

theorem release_resting (n start : Nat) (block : Option Block) :
    build RecordBuilder.releaseSealed? (resting n start block) =
      .ok none (resting n start block) := by
  cases block <;> rfl

end Parser

/-- A statement leaves the parser in step, whatever it means. -/
theorem Statement.coupled_settled (s : Statement) (block : Option Block) (line start : Nat) :
    ((s.reading block).settled line start).Coupled := by
  cases block with
  | none =>
      cases hcommand : s.command with
      | error fault =>
          rw [reading_of_command_error hcommand]
          exact .outside line
      | ok c =>
          cases c with
          | complete instruction =>
              rw [reading_of_complete hcommand]
              exact .outside line
          | header kind element =>
              rw [reading_of_header hcommand]
              exact .inside line line ⟨Nat.zero_le _, by simp, by simp⟩
  | some b =>
      cases hspace : s.isIndented with
      | true =>
          cases hextend : b.extend s with
          | error fault =>
              rw [reading_of_extend_error hspace hextend]
              exact .outside line
          | ok longer =>
              rw [reading_of_extend_ok hspace hextend]
              exact .inside line start (Block.sound_of_extend hspace hextend)
      | false =>
          cases hindent : b.indent with
          | none =>
              rw [reading_behind_header hspace hindent]
              exact .outside line
          | some width =>
              rw [reading_behind_body hspace hindent]
              -- the line that ends a block has not been counted
              exact .outside (line - 1)

end Script

end Patchbay
