import Patchbay.Proofs.Compiler.Streaming
import Patchbay.Proofs.Script.Layout

/-!
# The layout of a script does not show in its stream

A script compiles to the records of its constructs, which are found in its statements.  So a change
of layout that leaves the statements alone leaves the stream alone, and an error stays on its line,
wherever that line has moved to.  A body that is indented by another number of spaces has other
statements, but they mean the same (`compile_of_layout`).
-/

namespace Patchbay

open Script

/-- The lines of a script between its line feeds.  Behind the last line feed there is one more,
which is empty if the script ends there. -/
def linesBetween (script : String) : List (List Char) :=
  Text.pieces (· == '\n') script.toList

/-- The failure with the number of its line changed. -/
def Failure.renumber (moved : Nat → Nat) : Failure → Failure
  | script error => script (renumberError moved error)
  | stream error => stream error
  | misuse mistake => misuse mistake

theorem compile_eq_resume (script : String) :
    compile script = compiled [] (resume none (statements 1 (linesBetween script))) := by
  rw [compile_eq_compiled, constructsOf, statements_physicalLines]
  rfl

theorem compiled_renumber (moved : Nat → Nat) (written : Bytes)
    (meaning : Except ScriptError (List Instruction)) :
    compiled written (meaning.mapError (renumberError moved)) =
      (compiled written meaning).mapError (Failure.renumber moved) := by
  cases meaning <;> rfl

/-- Lines that say nothing, blanks behind lines and carriage returns change nothing but the number
of the line in an error.  A script that compiles can have the body of a block indented by any number
of spaces. -/
theorem compile_of_layout (script laid : String) :
    (∀ moved : Nat → Nat, Relaid moved (linesBetween script) (linesBetween laid) →
        compile laid = (compile script).mapError (Failure.renumber moved)) ∧
      ∀ width : Nat, 0 < width → Reindents width (linesBetween script) (linesBetween laid) →
        ∀ stream, compile script = .ok stream → compile laid = .ok stream := by
  constructor
  · intro moved hrelaid
    rw [compile_eq_resume laid, compile_eq_resume script, hrelaid.statements_eq,
      resume_renumber moved _ (by simp), compiled_renumber]
  · intro width hwidth hreindents stream hcompile
    rw [compile_eq_resume] at hcompile ⊢
    cases hmeaning : resume none (statements 1 (linesBetween script)) with
    | error error =>
        rw [hmeaning] at hcompile
        cases hcompile
    | ok instructions =>
        rw [hmeaning] at hcompile
        rw [hreindents.resume_of_ok hwidth hmeaning]
        exact hcompile

/-- A comment inside a block and a tab behind its body move an error from line 3 to line 4.  The
body of a block is indented by three spaces in place of one. -/
theorem compile_of_layout_comment_and_body :
    compile "S v\n  # c\n x = 7\t\nQ\n" = .error (.script ⟨4, .noSuchCommand 'Q'⟩) ∧
      compile "S v\n   x = 7\ni a\n" =
        .ok [0x53, 0x76, 0, 1, 0x78, 0, 0x69, 7, 0, 0x69, 0x61, 0] := by
  have hnothing : SaysNothing "  # c".toList := by
    simp [SaysNothing, Text.trimStart, Text.isBlank]
  have hblank : ∀ c ∈ ['\t'], Text.isBlank c = true := List.forall_mem_singleton.2 rfl
  have hrelaid : Relaid (id ∘ movedBehind 1) (linesBetween "S v\n x = 7\nQ\n")
      (linesBetween "S v\n  # c\n x = 7\t\nQ\n") :=
    .trans (.line ["S v".toList] [" x = 7".toList, "Q".toList, []] hnothing)
      (.blanks ["S v".toList, "  # c".toList] ["Q".toList, []] " x = 7".toList hblank (.inl rfl))
  have hfault : compile "S v\n x = 7\nQ\n" = .error (.script ⟨3, .noSuchCommand 'Q'⟩) := by
    decide +kernel
  have hbody : Reindented 3 " x = 7".toList "   x = 7".toList :=
    @Reindented.body 3 1 "x = 7".toList (by decide) (by decide)
  have hreindents : Reindents 3 (linesBetween "S v\n x = 7\ni a\n")
      (linesBetween "S v\n   x = 7\ni a\n") := by
    refine @Reindents.block 3 [] ["i a".toList, []] "S v".toList _ _ (.inl rfl)
      (.cons hbody .nil) ?_
    rintro line ⟨⟩
    refine ⟨?_, by decide⟩
    simp [SaysNothing, Text.trimStart, Text.isBlank]
  have hstream : compile "S v\n x = 7\ni a\n" =
      .ok [0x53, 0x76, 0, 1, 0x78, 0, 0x69, 7, 0, 0x69, 0x61, 0] := by
    decide +kernel
  refine ⟨?_, (compile_of_layout _ _).2 3 (by decide) hreindents _ hstream⟩
  rw [(compile_of_layout _ _).1 _ hrelaid, hfault]
  rfl

end Patchbay
