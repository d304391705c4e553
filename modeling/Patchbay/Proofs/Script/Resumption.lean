import Patchbay.Proofs.Script.Coupling
import Patchbay.Proofs.Script.Grammar

/-!
# The rest of a script

A parser in step has read the beginning of a script and remembers of it only the open block.
`resume` says what the statements that are left mean after such a beginning: those that belong to
the open block complete it, and the others are read as constructs of their own.

`resume` looks at all of these statements at once.  `resume_cons` says that it can be taken one
statement at a time: the reading of the first statement decides what is written, and which block is
open for the others.  This is where the grouped view of a script and the view of the parser meet.
-/

namespace Patchbay.Script

/-- The values that the rest of its body gives to a block. -/
def Block.remaining (block : Block) (following : Option Statement) (body : List Statement) :
    Except ScriptError (List Assignment) :=
  match block.indent with
  | none => Construct.values block.element following body
  | some width => bodyValues block.element width block.assignments.length body

/-- The instructions of the statements that are left, with the open block if there is one. -/
def resume : Option Block → List Statement → Except ScriptError (List Instruction)
  | none, rest => instructionsOf (constructs rest)
  | some block, rest =>
      match block.remaining (rest.dropWhile Statement.isIndented).head?
          (rest.takeWhile Statement.isIndented) with
      | .error error => .error error
      | .ok values =>
          (instructionsOf (constructs (rest.dropWhile Statement.isIndented))).map
            (block.kind.instruction block.element (block.assignments ++ values) :: ·)

/-! ## Headers -/

namespace Statement

/-- A statement outside of blocks is a command letter and a text that follows the grammar. -/
theorem means_of_command {s : Statement} {c : Command} (h : s.command = .ok c) :
    ∃ opcode : Opcode, s.first = opcode.letter ∧ Means opcode (Text.trimStart s.rest) c := by
  unfold command at h
  split at h
  · cases h
  · split at h
    · cases h
    · next opcode hopcode =>
        exact ⟨opcode, (Opcode.letter_of_ofLetter? hopcode).symm, Script.means_of_command h⟩

/-- The letter alone tells whether a command opens a block. -/
theorem isHeader_of_header {s : Statement} {kind : BlockKind} {element : String}
    (h : s.command = .ok (.header kind element)) : s.isHeader = true := by
  obtain ⟨opcode, hletter, hmeans⟩ := means_of_command h
  generalize Text.trimStart s.rest = text at hmeans
  unfold isHeader
  rw [hletter]
  cases hmeans <;> rfl

theorem isHeader_of_complete {s : Statement} {instruction : Instruction}
    (h : s.command = .ok (.complete instruction)) : s.isHeader = false := by
  obtain ⟨opcode, hletter, hmeans⟩ := means_of_command h
  generalize Text.trimStart s.rest = text at hmeans
  unfold isHeader
  rw [hletter]
  cases hmeans <;> rfl

end Statement

/-! ## Constructs in front -/

theorem head?_constructs (rest : List Statement) :
    (constructs rest).head?.map Construct.head = rest.head? := by
  cases rest with
  | nil =>
      rw [constructs]
      rfl
  | cons s rest =>
      rw [constructs]
      split <;> rfl

/-- The first construct begins with the first statement; whether it has a body or not, a fault of
its first line is the first fault. -/
theorem resume_of_command_error {s : Statement} {fault : Fault} (h : s.command = .error fault)
    (rest : List Statement) : resume none (s :: rest) = .error ⟨s.line, fault⟩ := by
  rw [resume, constructs]
  split <;> simp only [instructionsOf, Construct.instruction, h]

theorem resume_of_complete {s : Statement} {instruction : Instruction}
    (h : s.command = .ok (.complete instruction)) (rest : List Statement) :
    resume none (s :: rest) = (resume none rest).map (instruction :: ·) := by
  simp only [resume, constructs, Statement.isHeader_of_complete h, Bool.false_eq_true, if_false,
    instructionsOf, Construct.instruction, h]

theorem resume_of_header {s : Statement} {kind : BlockKind} {element : String}
    (h : s.command = .ok (.header kind element)) (rest : List Statement) :
    resume none (s :: rest) = resume (some ⟨kind, element, none, []⟩) rest := by
  simp only [resume, constructs, Statement.isHeader_of_header h, if_true, instructionsOf,
    Construct.instruction, h, head?_constructs, Block.remaining, List.nil_append]
  cases Construct.values element (rest.dropWhile Statement.isIndented).head?
    (rest.takeWhile Statement.isIndented) <;> rfl

/-! ## Open blocks -/

section

variable {block : Block} {s : Statement}

theorem Block.remaining_of_some {width : Nat} (h : block.indent = some width)
    (following : Option Statement) (body : List Statement) :
    block.remaining following body =
      bodyValues block.element width block.assignments.length body := by
  simp only [Block.remaining, h]

/-- The first line of a body fixes the indentation, and later lines find it fixed. -/
theorem Block.remaining_cons (hblock : block.Sound) (following : Option Statement)
    (more : List Statement) :
    block.remaining following (s :: more) =
      bodyValues block.element (block.width s) block.assignments.length (s :: more) := by
  cases hindent : block.indent with
  | none =>
      rw [Block.remaining, hindent, hblock.indent_eq_none_iff.1 hindent,
        Block.width_of_none hindent]
      rfl
  | some width => rw [Block.remaining_of_some hindent, Block.width_of_some hindent]

theorem resume_of_extend_error (hblock : block.Sound) (hspace : s.isIndented = true)
    {fault : Fault} (h : block.extend s = .error fault) (rest : List Statement) :
    resume (some block) (s :: rest) = .error ⟨s.line, fault⟩ := by
  have hvalue : s.value block.element (block.width s) block.assignments.length = .error fault := by
    unfold Block.extend at h
    cases hvalue : s.value block.element (block.width s) block.assignments.length with
    | error fault' =>
        rw [hvalue] at h
        cases h
        rfl
    | ok a =>
        rw [hvalue] at h
        cases h
  simp only [resume, List.takeWhile_cons_of_pos hspace, Block.remaining_cons hblock, bodyValues,
    hvalue]

theorem resume_of_extend_ok (hblock : block.Sound) (hspace : s.isIndented = true)
    {longer : Block} (h : block.extend s = .ok longer) (rest : List Statement) :
    resume (some block) (s :: rest) = resume (some longer) rest := by
  -- the line is the first of the body that is left, and the rest of it belongs to the longer block
  obtain ⟨a, hvalue, hlonger⟩ := Block.eq_of_extend h
  have hindent : longer.indent = some (block.width s) := by rw [hlonger]
  simp only [resume, List.takeWhile_cons_of_pos hspace, List.dropWhile_cons_of_pos hspace,
    Block.remaining_cons hblock, Block.remaining_of_some hindent, bodyValues, hvalue]
  simp only [hlonger, List.length_append, List.length_singleton]
  cases bodyValues block.element (block.width s) (block.assignments.length + 1)
      (rest.takeWhile Statement.isIndented) with
  | error error => rfl
  | ok values =>
      simp only [List.append_assoc, List.singleton_append]
      rfl

theorem resume_behind_header (hspace : s.isIndented = false) (h : block.indent = none)
    (rest : List Statement) :
    resume (some block) (s :: rest) = .error ⟨s.line, .notIndented⟩ := by
  have hindented : ¬ s.isIndented = true := Bool.eq_false_iff.1 hspace
  simp only [resume, List.takeWhile_cons_of_neg hindented, List.dropWhile_cons_of_neg hindented,
    Block.remaining, h, Construct.values, List.head?_cons]

theorem resume_behind_body (hspace : s.isIndented = false) {width : Nat}
    (h : block.indent = some width) (rest : List Statement) :
    resume (some block) (s :: rest) =
      (resume none (s :: rest)).map (block.instruction :: ·) := by
  have hindented : ¬ s.isIndented = true := Bool.eq_false_iff.1 hspace
  simp only [resume, List.takeWhile_cons_of_neg hindented, List.dropWhile_cons_of_neg hindented,
    Block.remaining_of_some h, bodyValues, List.append_nil]
  rfl

end

/-! ## One statement at a time -/

/-- What a reading makes of the statement `s` and of those behind it. -/
def Reading.outlook (s : Statement) (rest : List Statement) :
    Reading → Except ScriptError (List Instruction)
  | faulty fault => .error ⟨s.line, fault⟩
  | complete instruction => (resume none rest).map (instruction :: ·)
  | opened block => resume (some block) rest
  | extended block => resume (some block) rest
  | ended block => (resume none (s :: rest)).map (block.instruction :: ·)

/-- The constructs of a script can be found one statement at a time. -/
theorem resume_cons (s : Statement) {block : Option Block} (hblock : ∀ b ∈ block, b.Sound)
    (rest : List Statement) : resume block (s :: rest) = (s.reading block).outlook s rest := by
  cases block with
  | none =>
      cases hcommand : s.command with
      | error fault =>
          rw [Statement.reading_of_command_error hcommand]
          exact resume_of_command_error hcommand rest
      | ok c =>
          cases c with
          | complete instruction =>
              rw [Statement.reading_of_complete hcommand]
              exact resume_of_complete hcommand rest
          | header kind element =>
              rw [Statement.reading_of_header hcommand]
              exact resume_of_header hcommand rest
  | some b =>
      cases hspace : s.isIndented with
      | true =>
          cases hextend : b.extend s with
          | error fault =>
              rw [Statement.reading_of_extend_error hspace hextend]
              exact resume_of_extend_error (hblock b rfl) hspace hextend rest
          | ok longer =>
              rw [Statement.reading_of_extend_ok hspace hextend]
              exact resume_of_extend_ok (hblock b rfl) hspace hextend rest
      | false =>
          cases hindent : b.indent with
          | none =>
              rw [Statement.reading_behind_header hspace hindent]
              exact resume_behind_header hspace hindent rest
          | some width =>
              rw [Statement.reading_behind_body hspace hindent]
              exact resume_behind_body hspace hindent rest

/-- At the end of the script an open block is complete, with or without a body. -/
theorem resume_nil {block : Option Block} (hblock : ∀ b ∈ block, b.Sound) :
    resume block [] = .ok (block.toList.map Block.instruction) := by
  cases block with
  | none =>
      rw [resume, constructs]
      rfl
  | some b =>
      have hremaining : b.remaining none [] = .ok [] := by
        unfold Block.remaining
        cases b.indent <;> rfl
      simp only [resume, List.takeWhile_nil, List.dropWhile_nil, List.head?_nil, hremaining,
        constructs, List.append_nil]
      rfl

/-! ## Two scripts side by side -/

/-- A relation between the meanings of two scripts goes over to longer scripts, if the statements
that are put in front are read alike. -/
theorem resume_cons_rel
    {R : Except ScriptError (List Instruction) → Except ScriptError (List Instruction) → Prop}
    {s s' : Statement} {rest rest' : List Statement}
    (hreading : ∀ block, s'.reading block = s.reading block)
    (hfault : ∀ fault, R (.error ⟨s.line, fault⟩) (.error ⟨s'.line, fault⟩))
    (hcons : ∀ (i : Instruction) (x x'), R x x' → R (x.map (i :: ·)) (x'.map (i :: ·)))
    (hrest : ∀ block : Option Block, (∀ b ∈ block, b.Sound) →
      R (resume block rest) (resume block rest'))
    {block : Option Block} (hblock : ∀ b ∈ block, b.Sound) :
    R (resume block (s :: rest)) (resume block (s' :: rest')) := by
  -- a statement that stands behind a block is read twice, and by its second reading is taken
  have htaken : ∀ block : Option Block, (∀ b ∈ block, b.Sound) →
      (∀ b, s.reading block ≠ .ended b) →
        R (resume block (s :: rest)) (resume block (s' :: rest')) := by
    intro block hblock hended
    have hcoupled := s.coupled_settled block 0 0
    rw [resume_cons _ hblock, resume_cons _ hblock, hreading]
    generalize s.reading block = reading at hended hcoupled ⊢
    cases reading with
    | faulty fault => exact hfault fault
    | complete instruction => exact hcons _ _ _ (hrest none (by simp))
    | opened b => exact hrest _ hcoupled.sound
    | extended b => exact hrest _ hcoupled.sound
    | ended b => exact absurd rfl (hended b)
  by_cases hended : ∀ b, s.reading block ≠ .ended b
  · exact htaken block hblock hended
  · obtain ⟨b, hb⟩ := not_forall_not.1 hended
    have hnone : ∀ b, s.reading none ≠ .ended b := by
      intro b h
      cases Statement.eq_of_reading_ended h
    rw [resume_cons _ hblock, resume_cons _ hblock, hreading, hb]
    exact hcons _ _ _ (htaken none (by simp) hnone)

/-! ## Other numbers -/

/-- The statement with its number changed. -/
def Statement.renumber (f : Nat → Nat) (s : Statement) : Statement :=
  s.onLine (f s.line)

/-- The error with its number changed. -/
def renumberError (f : Nat → Nat) (error : ScriptError) : ScriptError :=
  { error with line := f error.line }

/-- The numbers of statements matter to nothing but the number in the error. -/
theorem resume_renumber (f : Nat → Nat) (rest : List Statement) {block : Option Block}
    (hblock : ∀ b ∈ block, b.Sound) :
    resume block (rest.map (Statement.renumber f)) =
      (resume block rest).mapError (renumberError f) := by
  induction rest generalizing block with
  | nil =>
      rw [List.map_nil, resume_nil hblock]
      rfl
  | cons s rest ih =>
      refine resume_cons_rel (R := fun x x' => x' = x.mapError (renumberError f)) ?_ ?_ ?_ ?_ hblock
      · intro block
        rfl
      · intro fault
        rfl
      · rintro i x - rfl
        exact (mapError_map x _ _).symm
      · intro block hblock
        exact ih hblock

theorem statements_add (k n : Nat) (lines : List (List Char)) :
    statements (k + n) lines = (statements n lines).map (Statement.renumber (k + ·)) := by
  induction lines generalizing n with
  | nil => rfl
  | cons line lines ih =>
      have hline : Statement.ofLine? (k + n) line =
          (Statement.ofLine? n line).map (Statement.renumber (k + ·)) := by
        rw [Statement.ofLine?_eq_map_onLine (k + n) n]
        cases hs : Statement.ofLine? n line with
        | none => rfl
        | some s =>
            rw [Option.map_some, Option.map_some, Statement.renumber,
              (Statement.trimEnd_of_ofLine?_eq_some hs).1]
      rw [statements, statements, Nat.add_assoc, ih, hline, List.map_append]
      cases Statement.ofLine? n line <;> rfl

end Patchbay.Script
