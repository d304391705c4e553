import Mathlib.Data.List.Forall2
import Patchbay.Proofs.Compiler.Streaming
import Patchbay.Proofs.Instruction.WireFormat
import Patchbay.Proofs.Script.WellFormed

/-!
# What a compiled stream says

A stream that the compiler has written can always be decoded, and it decodes to what the script
said: one instruction for each construct, in the order of the script, with the operands of the
construct (`recordsOf_compile`).

What a construct says is defined by `Construct.Means`, in terms of its lines and of the grammar of
commands, and without the functions that compile it.  That the compiler follows this relation is
shown construct by construct, and that the decoder does not lose anything on the way back is a
property of the wire format, because what scripts say is always well formed.
-/

namespace Patchbay.Script

/-! ## What constructs say -/

/-- A line of a body that is indented by `width` spaces and makes an assignment behind them. -/
def Statement.Assigns (width : Nat) (s : Statement) (a : Assignment) : Prop :=
  ∃ text, s.text = List.replicate width ' ' ++ text ∧ text.head? ≠ some ' ' ∧
    assignment text = .ok a

/-- What a construct says: a command on its own line, or the header of a block with one assignment
on each line of its body, all indented alike. -/
inductive Construct.Means : Construct → Instruction → Prop
  | alone {s : Statement} {opcode : Opcode} {i : Instruction} (letter : s.first = opcode.letter)
      (means : Script.Means opcode (Text.trimStart s.rest) (.complete i)) : Means ⟨s, []⟩ i
  | block {s : Statement} {body : List Statement} {opcode : Opcode} {kind : BlockKind}
      {element : String} {width : Nat} {values : List Assignment} (letter : s.first = opcode.letter)
      (means : Script.Means opcode (Text.trimStart s.rest) (.header kind element))
      (limit : values.length ≤ assignmentLimit)
      (assigns : List.Forall₂ (Statement.Assigns width) body values) :
      Means ⟨s, body⟩ (kind.instruction element values)

/-! ## Bodies -/

theorem takeWhile_space (text : List Char) :
    text.takeWhile (· == ' ') = List.replicate (Text.leadingSpaces text) ' ' := by
  refine List.eq_replicate_iff.2 ⟨rfl, ?_⟩
  intro c hc
  have hspace := List.mem_takeWhile_imp hc
  exact eq_of_beq hspace

theorem eq_spaces_append_drop (text : List Char) :
    text = List.replicate (Text.leadingSpaces text) ' ' ++ text.drop (Text.leadingSpaces text) := by
  have htake : text.takeWhile (· == ' ') = text.take (Text.leadingSpaces text) :=
    List.prefix_iff_eq_take.1 (List.takeWhile_prefix _)
  rw [← takeWhile_space, htake, List.take_append_drop]

theorem Statement.assigns_of_value {element : String} {width index : Nat} {s : Statement}
    {a : Assignment} (h : s.value element width index = .ok a) : s.Assigns width a := by
  obtain ⟨rfl, -, hassignment⟩ := index_lt_of_value h
  refine ⟨s.text.drop s.indentation, ?_, ?_, hassignment⟩
  · exact eq_spaces_append_drop s.text
  · intro hhead
    exact Nat.lt_irrefl _ ((head?_drop_eq_space_iff (Nat.le_refl _)).1 hhead)

theorem forall₂_of_bodyValues {element : String} {width index : Nat} {body : List Statement}
    {values : List Assignment} (h : bodyValues element width index body = .ok values) :
    List.Forall₂ (Statement.Assigns width) body values ∧
      (index ≤ assignmentLimit → index + values.length ≤ assignmentLimit) := by
  induction body generalizing index values with
  | nil =>
      cases h
      exact ⟨.nil, fun hindex => hindex⟩
  | cons s body ih =>
      rw [bodyValues] at h
      split at h
      · cases h
      · next a hvalue =>
          obtain ⟨others, hothers, rfl⟩ := of_map_eq_ok h
          obtain ⟨hassigns, hlimit⟩ := ih hothers
          -- the limit is checked at every line, so it holds at the last one
          obtain ⟨-, hindex, -⟩ := Statement.index_lt_of_value hvalue
          refine ⟨.cons (Statement.assigns_of_value hvalue) hassigns, fun _ => ?_⟩
          have := hlimit hindex
          rw [List.length_cons]
          omega

theorem Construct.forall₂_of_values {element : String} {following : Option Statement}
    {body : List Statement} {values : List Assignment}
    (h : Construct.values element following body = .ok values) :
    ∃ width, List.Forall₂ (Statement.Assigns width) body values ∧
      values.length ≤ assignmentLimit := by
  cases body with
  | nil =>
      cases following with
      | none =>
          cases h
          exact ⟨0, .nil, Nat.zero_le _⟩
      | some s => cases h
  | cons first more =>
      obtain ⟨hassigns, hlimit⟩ := forall₂_of_bodyValues h
      refine ⟨first.indentation, hassigns, ?_⟩
      have := hlimit (Nat.zero_le _)
      omega

/-! ## Constructs -/

/-- Only headers have bodies. -/
theorem body_of_mem_constructs {statements : List Statement} {c : Construct}
    (h : c ∈ constructs statements) : c.head.isHeader = true ∨ c.body = [] := by
  induction statements using constructs.induct with
  | case1 =>
      rw [constructs] at h
      cases h
  | case2 s rest hheader ih =>
      rw [constructs, if_pos hheader] at h
      rcases List.mem_cons.1 h with rfl | h
      · exact .inl hheader
      · exact ih h
  | case3 s rest hheader ih =>
      rw [constructs, if_neg hheader] at h
      rcases List.mem_cons.1 h with rfl | h
      · exact .inr rfl
      · exact ih h

/-- A construct that has an instruction says it. -/
theorem Construct.means_of_instruction {c : Construct} {following : Option Statement}
    {i : Instruction} (hbody : c.head.isHeader = true ∨ c.body = [])
    (h : c.instruction following = .ok i) : c.Means i := by
  obtain ⟨s, body⟩ := c
  unfold instruction at h
  split at h
  · cases h
  · next i' hcommand =>
      cases h
      obtain ⟨opcode, hletter, hmeans⟩ := Statement.means_of_command hcommand
      -- a complete command is no header, and nothing else has a body
      have hempty : body = [] := by
        refine hbody.resolve_left ?_
        rw [Statement.isHeader_of_complete hcommand]
        exact Bool.false_ne_true
      rw [hempty]
      exact .alone hletter hmeans
  · next kind element hcommand =>
      obtain ⟨values, hvalues, rfl⟩ := of_map_eq_ok h
      obtain ⟨opcode, hletter, hmeans⟩ := Statement.means_of_command hcommand
      obtain ⟨width, hassigns, hlimit⟩ := forall₂_of_values hvalues
      exact .block hletter hmeans hlimit hassigns

theorem forall₂_of_instructionsOf {cs : List Construct} {instructions : List Instruction}
    (hbody : ∀ c ∈ cs, c.head.isHeader = true ∨ c.body = [])
    (h : instructionsOf cs = .ok instructions) : List.Forall₂ Construct.Means cs instructions := by
  induction cs generalizing instructions with
  | nil =>
      cases h
      exact .nil
  | cons c rest ih =>
      rw [instructionsOf] at h
      split at h
      · cases h
      · next i hinstruction =>
          obtain ⟨others, hothers, rfl⟩ := of_map_eq_ok h
          refine .cons (Construct.means_of_instruction (hbody c List.mem_cons_self) hinstruction) ?_
          refine ih ?_ hothers
          intro d hd
          exact hbody d (List.mem_cons_of_mem c hd)

theorem forall_of_forall₂ {α β : Type} {R : α → β → Prop} {P : β → Prop}
    (hP : ∀ a b, R a b → P b) {as : List α} {bs : List β} (h : List.Forall₂ R as bs) :
    ∀ b ∈ bs, P b := by
  induction h with
  | nil => simp
  | cons hR _ ih =>
      intro b hb
      rcases List.mem_cons.1 hb with rfl | hb
      · exact hP _ b hR
      · exact ih b hb

/-- What a construct says can be written. -/
theorem Construct.Means.wellFormed {c : Construct} {i : Instruction} (h : c.Means i) :
    i.WellFormed := by
  cases h with
  | alone letter means => exact means.wellFormed
  | @block s body opcode kind element width values letter means limit assigns =>
      have helement : canTravel element.toList = true := means.wellFormed
      have hvalues : Assignment.WellFormedList values := by
        refine ⟨limit, forall_of_forall₂ ?_ assigns⟩
        rintro line a ⟨text, -, -, hassignment⟩
        exact wellFormed_of_assignment hassignment
      cases kind with
      | set => exact ⟨helement, hvalues⟩
      | update => exact ⟨helement, hvalues⟩

end Patchbay.Script

namespace Patchbay

open Script

/-! ## The compiled stream -/

/-- A successful compilation writes one instruction for each construct. -/
theorem exists_of_compile {script : String} {stream : Bytes} (h : compile script = .ok stream) :
    ∃ instructions, List.Forall₂ Construct.Means (constructsOf script) instructions ∧
      stream = instructions.flatMap Instruction.wire := by
  rw [compile_eq_compiled] at h
  cases hinstructions : instructionsOf (constructsOf script) with
  | error error =>
      rw [hinstructions] at h
      cases h
  | ok instructions =>
      rw [hinstructions] at h
      cases h
      refine ⟨instructions, forall₂_of_instructionsOf ?_ hinstructions, rfl⟩
      intro c hc
      exact body_of_mem_constructs hc

/-- A compiled stream decodes to what the script said: one record for each construct, in the order
of the script and each at the end of those before it. -/
theorem recordsOf_compile {script : String} {stream : Bytes} (h : compile script = .ok stream) :
    ∃ records, recordsOf stream = .ok records ∧
      List.Forall₂ Construct.Means (constructsOf script) (records.map Located.instruction) ∧
        stream = records.flatMap (fun r => r.instruction.wire) ∧
          ∀ (k : Nat) (_ : k < records.length), records[k].offset =
            ((records.take k).flatMap fun r => r.instruction.wire).length := by
  obtain ⟨instructions, hmeans, rfl⟩ := exists_of_compile h
  -- the grammar lets nothing through that the wire format could not carry
  have hwell : ∀ i ∈ instructions, i.WellFormed := by
    refine forall_of_forall₂ ?_ hmeans
    intro c i hi
    exact hi.wellFormed
  obtain ⟨records, hlaid, hmap⟩ := Laid.exists_of_wellFormed 0 hwell
  obtain ⟨hstream, -, hoffsets⟩ := Laid.iff_forall.1 hlaid
  refine ⟨records, recordsOf_iff_laid.2 hlaid, ?_, hstream, ?_⟩
  · rw [hmap]
    exact hmeans
  · intro k hk
    rw [hoffsets k hk, Nat.zero_add]

/-- A block with a comment behind it, then both forms of the instance command. -/
theorem recordsOf_compile_block_and_instances :
    compile "S e\n x = 7\n# end\nI\nI a b\n" =
        .ok [0x53, 0x65, 0, 1, 0x78, 0, 0x69, 7, 0, 0x49, 0, 0, 0, 0x49, 0x61, 0, 0x62, 0] ∧
      ∃ records, recordsOf [0x53, 0x65, 0, 1, 0x78, 0, 0x69, 7, 0, 0x49, 0, 0, 0, 0x49, 0x61, 0,
          0x62, 0] = .ok records ∧
        List.Forall₂ Construct.Means (constructsOf "S e\n x = 7\n# end\nI\nI a b\n")
          (records.map Located.instruction) := by
  have hstatements : statements 1
      (Source.physicalLines "S e\n x = 7\n# end\nI\nI a b\n".toList) =
        [⟨1, 'S', [' ', 'e']⟩, ⟨2, ' ', "x = 7".toList⟩, ⟨4, 'I', []⟩,
          ⟨5, 'I', " a b".toList⟩] := by
    decide
  have hconstructs : constructsOf "S e\n x = 7\n# end\nI\nI a b\n" =
      [⟨⟨1, 'S', [' ', 'e']⟩, [⟨2, ' ', "x = 7".toList⟩]⟩, ⟨⟨4, 'I', []⟩, []⟩,
        ⟨⟨5, 'I', " a b".toList⟩, []⟩] := by
    rw [constructsOf, hstatements]
    simp [constructs, Statement.isHeader, Statement.isIndented]
  have hcompile : compile "S e\n x = 7\n# end\nI\nI a b\n" =
      .ok [0x53, 0x65, 0, 1, 0x78, 0, 0x69, 7, 0, 0x49, 0, 0, 0, 0x49, 0x61, 0, 0x62, 0] := by
    rw [compile_eq_compiled, hconstructs]
    decide
  obtain ⟨records, hrecords, hmeans, -⟩ := recordsOf_compile hcompile
  exact ⟨hcompile, records, hrecords, hmeans⟩

end Patchbay
