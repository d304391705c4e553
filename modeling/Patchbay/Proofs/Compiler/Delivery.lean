import Patchbay.Proofs.Compiler.Course
import Patchbay.Proofs.Compiler.Streaming

/-!
# Runs on devices that never fail

A device that never fails may still take what it is offered in small pieces.  It takes all of it in
the end, so a run on such a device goes through its whole course: what it leaves in the sink are the
records of the course, and it ends as the course ends (`run_of_neverFails`).
-/

namespace Patchbay

namespace Session

open Script

variable {σ : Type} {device : Device σ}

/-! ## Following a course -/

/-- The records that stages write. -/
def recordsOfStages (stages : List Stage) : List Record :=
  stages.flatMap fun stage => stage.record?.toList

theorem recordsOfStages_cons (stage : Stage) (rest : List Stage) :
    recordsOfStages (stage :: rest) = stage.record?.toList ++ recordsOfStages rest := rfl

/-- The parser after the last stage. -/
def finalParser (parser : Parser) : List Stage → Parser
  | [] => parser
  | stage :: rest => finalParser stage.parser rest

theorem follow_of_neverFails (hdevice : device.NeverFails) (stages : List Stage) (s : Session σ) :
    ∃ left, follow device stages s = .ok () left ∧ left.parser = finalParser s.parser stages ∧
      left.instructions = s.instructions + (recordsOfStages stages).length ∧
        left.sink.taken = s.sink.taken ++ (recordsOfStages stages).flatMap Record.bytes := by
  induction stages generalizing s with
  | nil => exact ⟨s, rfl, rfl, rfl, (List.append_nil _).symm⟩
  | cons stage rest ih =>
      obtain ⟨next, hwrite, hparser, hcount, htaken⟩ := writeTaken_of_neverFails hdevice
        stage.record? (s.noted stage.parser stage.events)
      obtain ⟨left, hfollow, hparser', hcount', htaken'⟩ := ih next
      refine ⟨left, ?_, ?_, ?_, ?_⟩
      · rw [follow_cons, run_bind_of_ok hwrite, hfollow]
      · rw [hparser', hparser]
        rfl
      · rw [hcount', hcount, recordsOfStages_cons, List.length_append, ← Nat.add_assoc]
        rfl
      · rw [htaken', htaken, recordsOfStages_cons, List.flatMap_append, ← List.append_assoc]
        rfl

/-- A course that does not fail at a line that is no text leaves the parser outside of blocks, and
its builder empty. -/
theorem finalParser_course {n start : Nat} {block : Option Block} {lines : List Bytes}
    (h : (course n start block lines).failure? ≠ some (.stream .invalidUtf8)) (parser : Parser) :
    ∃ line, finalParser parser (course n start block lines).stages = ⟨line, none, .empty⟩ ∧
      ∀ error, (course n start block lines).failure? = some (.script error) →
        line = error.line := by
  induction n, start, block, lines using course_induction generalizing parser with
  | nil n start block hcourse =>
      rw [hcourse]
      exact ⟨n, rfl, by simp⟩
  | notText n start block line rest hbytes hcourse =>
      rw [hcourse] at h
      exact absurd rfl h
  | faulty n start block text rest st fault hline hreading hcourse =>
      rw [hcourse]
      refine ⟨n + 1, rfl, ?_⟩
      rintro error ⟨⟩
      rfl
  -- a stage in front does not matter, since the stages behind it settle the parser anew
  | silent n start block text rest hline hcourse ih =>
      rw [hcourse] at h ⊢
      exact ih h _
  | complete n start text rest st instruction hline hreading hcourse ih =>
      rw [hcourse] at h ⊢
      exact ih h _
  | opened n start text rest st b hline hreading hsound hcourse ih =>
      rw [hcourse] at h ⊢
      exact ih h _
  | extended n start b text rest st longer hline hreading hsound hcourse ih =>
      rw [hcourse] at h ⊢
      exact ih h _
  | ended n start b text rest st hline hreading hcourse ih =>
      rw [hcourse] at h ⊢
      exact ih h _

/-- On a device that never fails a run goes through its course to the end. -/
theorem run_of_neverFails (hdevice : device.NeverFails) (course : Course) (s : Session σ) :
    ∃ left, course.run device s = conclude course.failure? left ∧
      left.parser = finalParser s.parser course.stages ∧
        left.instructions = s.instructions + (recordsOfStages course.stages).length ∧
          left.sink.taken =
            s.sink.taken ++ (recordsOfStages course.stages).flatMap Record.bytes := by
  obtain ⟨left, hfollow, hleft⟩ := follow_of_neverFails hdevice course.stages s
  refine ⟨left, ?_, hleft⟩
  rw [Course.run, run_bind_of_ok hfollow]

/-- The end of a course that is followed on a device that never fails. -/
def Course.ending (course : Course) (parser : Parser) (instructions : Nat) : Except Failure Tally :=
  match course.failure? with
  | some failure => .error failure
  | none => .ok ⟨(finalParser parser course.stages).line,
      instructions + (recordsOfStages course.stages).length⟩

theorem runOver_of_neverFails (hdevice : device.NeverFails) {n start : Nat} {block : Option Block}
    (hblock : ∀ b ∈ block, b.Sound) (script : Bytes) (s : Session σ)
    (hs : s.parser = Parser.resting n start block) {c : Course}
    (hc : course n start block (Source.lines script) = c) :
    Session.ending (runOver device script) s = c.ending s.parser s.instructions ∧
      (left (runOver device script) s).parser = finalParser s.parser c.stages ∧
        (left (runOver device script) s).sink.taken =
          s.sink.taken ++ (recordsOfStages c.stages).flatMap Record.bytes := by
  obtain ⟨after, hrun, hparser, hcount, htaken⟩ := run_of_neverFails hdevice c s.started
  have hover : runOver device script s = conclude c.failure? after := by
    rw [runOver_eq device hblock script s hs, hc, hrun]
  rw [Session.ending, left, Course.ending, hover]
  cases c.failure? with
  | some failure => exact ⟨rfl, hparser, htaken⟩
  | none =>
      refine ⟨?_, hparser, htaken⟩
      have htally : after.tally = ⟨(finalParser s.parser c.stages).line,
          s.instructions + (recordsOfStages c.stages).length⟩ := by
        rw [tally, hparser, hcount]
        rfl
      exact congrArg Except.ok htally

end Session

end Patchbay
