import Patchbay.Proofs.Compiler.Counting
import Patchbay.Proofs.Compiler.Interruption

/-!
# Scripts one behind the other

A script that ends where a line ends can be followed by another script.  What the two compile to
together is what they compile to on their own, one behind the other, with one exception: a header at
the end of the first script is a block without a body there, and becomes a fault if a command
follows it.

The state of the parser between the two scripts is all that the second one sees of the first
(`compile_append_eq`).  Outside of blocks this is only the number of lines.  Inside of a block with a
body, the first statement of the second script is not indented, because the second script compiles on
its own, so it ends the block just as the end of the first script does (`resume_behind`).
-/

namespace Patchbay

open Script Session

/-! ## Behind the last line of a script -/

/-- Takes all lines of a script, and leaves the block at its end open. -/
def Session.takeLines {σ : Type} (device : Device σ) (script : Bytes) : Action σ Unit := do
  start
  feedAll device (Source.lines script)

/-- The block that is still open behind the last line of a script. -/
def openBehind (script : String) : Option Block :=
  (left (takeLines Device.unlimited (Utf8.encode script.toList)) (.new ())).parser.block

theorem compile_eq_outcome (script : String) :
    compile script =
      outcome ((takeLines Device.unlimited (Utf8.encode script.toList) >>= fun _ =>
        finish Device.unlimited) (.new ())) := by
  have hrun : runOver Device.unlimited (Utf8.encode script.toList) =
      (takeLines Device.unlimited (Utf8.encode script.toList) >>= fun _ =>
        finish Device.unlimited) := by
    rw [runOver, takeLines, bind_assoc]
  rw [compile, hrun]
  split <;> next hresult => rw [hresult]; rfl

/-- The session between the lines of a script that compiles and its end. -/
structure Between (script : String) (stream : Bytes) (s : Session Unit) : Prop where
  takes : takeLines Device.unlimited (Utf8.encode script.toList) (.new ()) = .ok () s
  coupled : s.parser.Coupled
  line : s.parser.line = (Source.physicalLines script.toList).length
  block : s.parser.block = openBehind script
  /-- The end of the script only completes the open block. -/
  stream : stream = s.sink.taken ++ (openBehind script).toList.flatMap (·.instruction.wire)

theorem exists_between {script : String} {stream : Bytes} (h : compile script = .ok stream) :
    ∃ s, Between script stream s := by
  rw [compile_eq_outcome, run_bind] at h
  cases htakes : takeLines Device.unlimited (Utf8.encode script.toList) (.new ()) with
  | error failure s =>
      rw [htakes] at h
      cases h
  | ok u s =>
      rw [htakes] at h
      have hblock : openBehind script = s.parser.block := by
        rw [openBehind, left, htakes]
      have hfeed : feedAll Device.unlimited (Source.lines (Utf8.encode script.toList))
          (Session.new ()).started = .ok () s := htakes
      rw [Source.lines_encode] at hfeed
      obtain ⟨hline, hcoupled⟩ := line_of_feedAll Device.unlimited (.outside 0) hfeed
      obtain ⟨start, hresting⟩ := hcoupled.eq_resting
      refine ⟨s, htakes, hcoupled, ?_, hblock.symm, ?_⟩
      · rw [hline, List.length_map]
        exact Nat.zero_add _
      · have hfinish := follows_finish _ start _ s hcoupled.sound hresting
        rw [resume_nil hcoupled.sound, compiled, List.flatMap_map] at hfinish
        rw [hblock]
        exact Except.ok.inj (h.symm.trans hfinish)

/-! ## The second script -/

variable {front : Bytes} {first second : String}

/-- The first script leaves what it has written, the open block and the number of its lines. -/
theorem compile_append_eq {s : Session Unit} (hs : Between first front s)
    (hend : Source.EndsLine first.toList) (second : String) :
    compile (first ++ second) = compiled s.sink.taken (resume (openBehind first)
      (statements (first.toList.count '\n' + 1) (Source.physicalLines second.toList))) := by
  obtain ⟨start, hresting⟩ := hs.coupled.eq_resting
  have hlines : Source.lines (Utf8.encode (first ++ second).toList) =
      Source.lines (Utf8.encode first.toList) ++
        (Source.physicalLines second.toList).map Utf8.encode := by
    rw [String.toList_append, Source.lines_encode, Source.physicalLines_append hend,
      List.map_append, Source.lines_encode]
  have htakes : takeLines Device.unlimited (Utf8.encode (first ++ second).toList) =
      (takeLines Device.unlimited (Utf8.encode first.toList) >>= fun _ =>
        feedAll Device.unlimited ((Source.physicalLines second.toList).map Utf8.encode)) := by
    rw [takeLines, takeLines, hlines, feedAll_append, bind_assoc]
  rw [compile_eq_outcome, htakes, bind_assoc, run_bind_of_ok hs.takes, ← hs.block,
    ← Source.length_physicalLines hend, ← hs.line]
  exact follows_feedAll _ _ start _ s hs.coupled.sound hresting

/-- Statements that have a meaning of their own end the body of an open block. -/
theorem resume_behind {block : Option Block} (hblock : ∀ b ∈ block, b.Sound)
    (hbody : ∀ b ∈ block, b.assignments ≠ []) {following : List Statement}
    {instructions : List Instruction} (h : resume none following = .ok instructions) :
    resume block following = .ok (block.toList.map Block.instruction ++ instructions) := by
  cases block with
  | none => exact h
  | some b =>
      cases following with
      | nil =>
          rw [resume_nil (by simp)] at h
          cases h
          exact resume_nil hblock
      | cons s rest =>
          have hspace : s.isIndented = false := by
            cases hcommand : s.command with
            | error fault =>
                rw [resume_of_command_error hcommand] at h
                cases h
            | ok c => exact Statement.isIndented_of_command hcommand
          obtain ⟨width, hindent⟩ := Option.ne_none_iff_exists'.1
            ((hblock b rfl).indent_eq_none_iff.not.2 (hbody b rfl))
          rw [resume_behind_body hspace hindent, h]
          rfl

theorem resume_statements_behind (lines : List (List Char)) (n : Nat) :
    resume none (statements (n + 1) lines) =
      (resume none (statements 1 lines)).mapError (renumberError (n + ·)) := by
  rw [statements_add, resume_renumber _ _ (by simp)]

/-- The instructions of the second script come behind the stream of the first. -/
theorem compile_append_of_ok {s : Session Unit} (hs : Between first front s)
    (hend : Source.EndsLine first.toList)
    (hbody : ∀ block ∈ openBehind first, block.assignments ≠ []) {instructions : List Instruction}
    (h : resume none (statements 1 (Source.physicalLines second.toList)) = .ok instructions) :
    compile (first ++ second) = .ok (front ++ instructions.flatMap Instruction.wire) := by
  have hsound : ∀ b ∈ openBehind first, b.Sound := hs.block ▸ hs.coupled.sound
  have hbehind : resume none (statements (first.toList.count '\n' + 1)
      (Source.physicalLines second.toList)) = .ok instructions := by
    rw [resume_statements_behind, h]
    rfl
  rw [compile_append_eq hs hend, resume_behind hsound hbody hbehind, compiled, hs.stream,
    List.flatMap_append, List.flatMap_map, List.append_assoc]

/-- The stream of a script behind another is the stream of the first and the stream of the second,
unless a header at the end of the first script is still without a body.  Behind a script that ends
outside of blocks, every script writes what it writes on its own, or fails where it fails on its own,
which is further down by the lines of the first. -/
theorem compile_append (hend : Source.EndsLine first.toList) (hfirst : compile first = .ok front) :
    ((∀ block ∈ openBehind first, block.assignments ≠ []) → ∀ back, compile second = .ok back →
        compile (first ++ second) = .ok (front ++ back)) ∧
      (openBehind first = none →
        (∃ back, compile second = .ok back ∧ compile (first ++ second) = .ok (front ++ back)) ∨
          ∃ line fault, compile second = .error (.script ⟨line, fault⟩) ∧
            compile (first ++ second) =
              .error (.script ⟨first.toList.count '\n' + line, fault⟩)) := by
  obtain ⟨s, hs⟩ := exists_between hfirst
  have hsecond : compile second =
      compiled [] (resume none (statements 1 (Source.physicalLines second.toList))) :=
    compile_eq_compiled second
  cases hmeaning : resume none (statements 1 (Source.physicalLines second.toList)) with
  | ok instructions =>
      rw [hmeaning, compiled, List.nil_append] at hsecond
      refine ⟨?_, ?_⟩
      · intro hbody back hback
        obtain rfl := Except.ok.inj (hsecond.symm.trans hback)
        exact compile_append_of_ok hs hend hbody hmeaning
      · intro houtside
        exact .inl ⟨_, hsecond, compile_append_of_ok hs hend (by simp [houtside]) hmeaning⟩
  | error error =>
      rw [hmeaning, compiled] at hsecond
      refine ⟨?_, ?_⟩
      · intro _ back hback
        cases hsecond.symm.trans hback
      · intro houtside
        refine .inr ⟨error.line, error.fault, hsecond, ?_⟩
        rw [compile_append_eq hs hend, houtside, resume_statements_behind, hmeaning]
        rfl

/-- The command of the second script ends the block of the first.  Behind three lines that end
outside of blocks, the fault on line 2 of the second script is on line 5. -/
theorem compile_append_block_and_fault :
    compile ("S v\n x = 7\n" ++ "i a\n") =
        .ok ([0x53, 0x76, 0, 1, 0x78, 0, 0x69, 7, 0] ++ [0x69, 0x61, 0]) ∧
      compile ("i a\n\r\n# b\n" ++ "i c\n d = 7\n") =
        .error (.script ⟨5, .indentedTooMuch⟩) := by
  have hblock : compile "S v\n x = 7\n" = .ok [0x53, 0x76, 0, 1, 0x78, 0, 0x69, 7, 0] := by
    decide +kernel
  have hbody : ∀ block ∈ openBehind "S v\n x = 7\n", block.assignments ≠ [] := by
    decide +kernel
  have hcommand : compile "i a\n" = .ok [0x69, 0x61, 0] := by
    decide +kernel
  have hlines : compile "i a\n\r\n# b\n" = .ok [0x69, 0x61, 0] := by
    decide +kernel
  have houtside : openBehind "i a\n\r\n# b\n" = none := by
    decide +kernel
  have hfault : compile "i c\n d = 7\n" = .error (.script ⟨2, .indentedTooMuch⟩) := by
    decide +kernel
  refine ⟨(compile_append (.inr rfl) hblock).1 hbody _ hcommand, ?_⟩
  rcases (compile_append (.inr rfl) hlines).2 houtside with ⟨back, hback, -⟩ |
      ⟨line, fault, herror, hboth⟩
  · cases hfault.symm.trans hback
  · cases hfault.symm.trans herror
    exact hboth

end Patchbay
