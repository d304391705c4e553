import Patchbay.Proofs.Compiler.Delivery

/-!
# Runs one after another

A session can run over several scripts in turn.  The numbers of lines and of instructions go on
counting, and nothing else should pass from one run to the next.

The course of a script does not depend on where its lines begin to be counted, except for the
numbers themselves (`moved_course`).  So a run that begins outside of blocks does what a first run
does, and this is the exact condition: a block that is still open when the run begins is written by
it.  A run leaves a block open in one way only, by failing inside of the block at a line that is no
text (`likeFresh_iff`).
-/

namespace Patchbay

/-- The counts of a run behind earlier lines and instructions. -/
def Tally.behind (tally : Tally) (lines instructions : Nat) : Tally :=
  ⟨lines + tally.lines, instructions + tally.instructions⟩

/-- The failure of a run behind earlier lines. -/
def Failure.behind (lines : Nat) : Failure → Failure
  | script error => script { error with line := lines + error.line }
  | stream error => stream error
  | misuse mistake => misuse mistake

namespace Session

open Script

/-! ## The same course, further down -/

/-- Two stages that differ only by the numbers of their lines. -/
structure Stage.Moved (n : Nat) (stage later : Stage) : Prop where
  bytes : later.record?.toList.map Record.bytes = stage.record?.toList.map Record.bytes
  line : later.parser.line = n + stage.parser.line

/-- Two courses that differ only by the numbers of their lines. -/
structure Course.Moved (n : Nat) (course later : Course) : Prop where
  bytes : (recordsOfStages later.stages).map Record.bytes =
    (recordsOfStages course.stages).map Record.bytes
  failure : later.failure? = course.failure?.map (Failure.behind n)
  line : ∀ parser parser' : Parser, parser'.line = n + parser.line →
    (finalParser parser' later.stages).line = n + (finalParser parser course.stages).line

theorem Course.Moved.behind {n : Nat} {course later : Course} {stage stage' : Stage}
    (h : course.Moved n later) (hstage : stage.Moved n stage') :
    (course.behind stage).Moved n (later.behind stage') := by
  refine ⟨?_, h.failure, ?_⟩
  · simp only [Course.behind, recordsOfStages_cons, List.map_append, hstage.bytes, h.bytes]
  · intro parser parser' _
    exact h.line stage.parser stage'.parser hstage.line

theorem Stage.moved_ofReading (n m start start' : Nat) (reading : Reading) :
    (Stage.ofReading (m + 1) start reading).Moved n
      (Stage.ofReading (n + m + 1) start' reading) := by
  cases reading with
  | faulty fault => exact ⟨rfl, rfl⟩
  | complete instruction => exact ⟨rfl, rfl⟩
  | opened b => exact ⟨rfl, rfl⟩
  | extended b => exact ⟨rfl, rfl⟩
  | ended b => exact ⟨rfl, rfl⟩

/-- The reading of a line does not depend on its number. -/
theorem course_of_statement_behind {m : Nat} {text : List Char} {st : Statement}
    (hline : Statement.ofLine? (m + 1) text = some st) (n start : Nat) (block : Option Block)
    (rest : List Bytes) :
    course (n + m) start block (Utf8.encode text :: rest) =
      courseOf (n + m) start (Utf8.encode text) rest (st.reading block) := by
  have hbehind : Statement.ofLine? (n + m + 1) text = some (st.onLine (n + m + 1)) := by
    rw [Statement.ofLine?_eq_map_onLine (n + m + 1) (m + 1), hline]
    rfl
  have hreading : (st.onLine (n + m + 1)).reading block = st.reading block := rfl
  rw [course_of_statement (Utf8.decode?_encode text) hbehind, hreading]

theorem moved_course (n m start start' : Nat) (block : Option Block) (lines : List Bytes) :
    (course m start block lines).Moved n (course (n + m) start' block lines) := by
  -- only messages show where a block starts, so the two starts need not match
  induction m, start, block, lines using course_induction generalizing start' with
  | nil m start block hcourse =>
      rw [hcourse, course_nil]
      refine ⟨?_, rfl, ?_⟩
      · cases block <;> rfl
      · intro parser parser' _
        rfl
  | notText m start block line rest hbytes hcourse =>
      rw [hcourse, course_of_not_text hbytes]
      refine ⟨rfl, rfl, ?_⟩
      intro parser parser' hline
      exact hline
  | silent m start block text rest hline hcourse ih =>
      have hbehind : Statement.ofLine? (n + m + 1) text = none := by
        rw [Statement.ofLine?_eq_map_onLine (n + m + 1) (m + 1), hline]
        rfl
      rw [hcourse, course_of_silent (Utf8.decode?_encode text) hbehind]
      refine (ih start').behind ⟨rfl, ?_⟩
      cases block <;> rfl
  | faulty m start block text rest st fault hline hreading hcourse =>
      rw [hcourse, course_of_statement_behind hline, hreading, courseOf]
      refine ⟨rfl, rfl, ?_⟩
      intro parser parser' _
      rfl
  | complete m start text rest st instruction hline hreading hcourse ih =>
      rw [hcourse, course_of_statement_behind hline, hreading, courseOf]
      exact (ih start').behind (Stage.moved_ofReading n m start start' _)
  | opened m start text rest st b hline hreading hsound hcourse ih =>
      rw [hcourse, course_of_statement_behind hline, hreading, courseOf]
      exact (ih (n + m + 1)).behind (Stage.moved_ofReading n m start start' _)
  | extended m start b text rest st longer hline hreading hsound hcourse ih =>
      rw [hcourse, course_of_statement_behind hline, hreading, courseOf]
      exact (ih start').behind (Stage.moved_ofReading n m start start' _)
  | ended m start b text rest st hline hreading hcourse ih =>
      rw [hcourse, course_of_statement_behind hline, hreading, courseOf]
      exact (ih start').behind (Stage.moved_ofReading n m start start' _)

/-! ## Runs like a first run -/

variable {σ : Type} {device : Device σ}

/-- A run over `script` writes what a first run over it writes, and ends as a first run ends, with
the lines and instructions before it counted as well. -/
structure LikeFresh (device : Device σ) (fresh : σ) (s : Session σ) (script : Bytes) : Prop where
  bytes : (left (runOver device script) s).sink.taken =
    s.sink.taken ++ (left (runOver device script) (.new fresh)).sink.taken
  ending : ending (runOver device script) s =
    match ending (runOver device script) (.new fresh) with
    | .ok tally => .ok (tally.behind s.parser.line s.instructions)
    | .error failure => .error (failure.behind s.parser.line)

theorem Course.Moved.ending_eq {n : Nat} {c later : Course} (h : c.Moved n later)
    {parser parser' : Parser} (hline : parser'.line = n + parser.line) (instructions : Nat) :
    later.ending parser' instructions =
      match c.ending parser 0 with
      | .ok tally => .ok (tally.behind n instructions)
      | .error failure => .error (failure.behind n) := by
  have hcount : (recordsOfStages later.stages).length = (recordsOfStages c.stages).length := by
    simpa only [List.length_map] using congrArg List.length h.bytes
  rw [Course.ending, Course.ending, h.failure]
  cases c.failure? with
  | some failure => rfl
  | none =>
      simp only [Option.map_none, h.line parser parser' hline, hcount, Tally.behind, Nat.zero_add]

/-- Outside of blocks every run is like a first run. -/
theorem likeFresh_of_outside (hdevice : device.NeverFails) (fresh : σ) {s : Session σ} {n : Nat}
    (hs : s.parser = Parser.resting n 0 none) (script : Bytes) :
    LikeFresh device fresh s script := by
  have hnew : (Session.new fresh).parser = Parser.resting 0 0 none := rfl
  have hline : s.parser.line = n := by rw [hs]; rfl
  obtain ⟨hending, -, htaken⟩ := runOver_of_neverFails hdevice (by simp) script s hs rfl
  obtain ⟨hfresh, -, htaken'⟩ := runOver_of_neverFails hdevice (by simp) script _ hnew rfl
  have hmoved : (course 0 0 none (Source.lines script)).Moved n
      (course n 0 none (Source.lines script)) := moved_course n 0 0 0 none (Source.lines script)
  refine ⟨?_, ?_⟩
  · rw [htaken, htaken', List.flatMap_def, List.flatMap_def, hmoved.bytes]
    rfl
  · rw [hending, hfresh, hline]
    exact hmoved.ending_eq hline s.instructions

/-- The end of a script is enough for an open block to be written. -/
theorem not_likeFresh_of_inside (hdevice : device.NeverFails) (fresh : σ) {s : Session σ}
    {n start : Nat} {b : Block} (hb : b.Sound) (hs : s.parser = Parser.resting n start (some b)) :
    ¬ LikeFresh device fresh s [] := by
  intro h
  have hnew : (Session.new fresh).parser = Parser.resting 0 0 none := rfl
  obtain ⟨-, -, htaken⟩ := runOver_of_neverFails hdevice (by simpa) [] s hs
    (course_nil n start (some b))
  obtain ⟨-, -, htaken'⟩ := runOver_of_neverFails hdevice (by simp) [] _ hnew (course_nil 0 0 none)
  have hnothing : b.instruction.wire = [] := by
    have hbytes := h.bytes
    rw [htaken, htaken'] at hbytes
    simpa [recordsOfStages, Stage.closing, blockRecord, Session.new, Sink.new, Sink.taken] using
      List.append_cancel_left hbytes
  rw [← Block.header_append_wireList] at hnothing
  cases hnothing

/-! ## Many runs -/

/-- A run leaves a block open only by failing at a line that is no text. -/
theorem ending_of_inside (hdevice : device.NeverFails) {s : Session σ} (hs : s.parser.Coupled)
    {script : Bytes} (h : (left (runOver device script) s).parser.block ≠ none) :
    ending (runOver device script) s = .error (.stream .invalidUtf8) := by
  obtain ⟨start, hresting⟩ := hs.eq_resting
  obtain ⟨hending, hparser, -⟩ := runOver_of_neverFails hdevice hs.sound script s hresting rfl
  by_cases hfailure : (course s.parser.line start s.parser.block (Source.lines script)).failure? =
      some (.stream .invalidUtf8)
  · rw [hending, Course.ending, hfailure]
  · obtain ⟨line, hfinal, -⟩ := finalParser_course hfailure s.parser
    rw [hparser, hfinal] at h
    exact absurd rfl h

/-- Every run over a script is like a first run, if and only if no block is open when it begins;
and a block is open only behind a run that failed at a line that is no text. -/
theorem likeFresh_iff (hdevice : device.NeverFails) (state fresh : σ) (earlier : List Bytes) :
    ((∀ script, LikeFresh device fresh (afterAll device (.new state) earlier) script) ↔
        (afterAll device (.new state) earlier).parser.block = none) ∧
      ((afterAll device (.new state) earlier).parser.block ≠ none →
        ∃ before script, earlier = before ++ [script] ∧
          ending (runOver device script) (afterAll device (.new state) before) =
            .error (.stream .invalidUtf8)) := by
  have hnew : (Session.new state).parser.Coupled := .outside 0
  have hcoupled := coupled_afterAll device earlier hnew
  refine ⟨⟨?_, ?_⟩, ?_⟩
  · intro hlike
    by_contra hinside
    obtain ⟨b, hb⟩ := Option.ne_none_iff_exists'.1 hinside
    obtain ⟨start, hresting⟩ := hcoupled.eq_resting
    rw [hb] at hresting
    exact not_likeFresh_of_inside hdevice fresh (hcoupled.sound b hb) hresting (hlike [])
  · intro houtside script
    obtain ⟨start, hresting⟩ := hcoupled.eq_resting
    rw [houtside] at hresting
    exact likeFresh_of_outside hdevice fresh hresting script
  · intro hinside
    rcases List.eq_nil_or_concat earlier with rfl | ⟨before, script, rfl⟩
    · exact absurd rfl hinside
    · rw [List.concat_eq_append, afterAll_concat] at hinside
      refine ⟨before, script, List.concat_eq_append, ?_⟩
      exact ending_of_inside hdevice (coupled_afterAll device before hnew) hinside

/-- Behind a fault inside of a block and a line outside of blocks that is no text. -/
theorem likeFresh_iff_behind_failures :
    Device.unlimited.NeverFails ∧
      ∀ script, LikeFresh Device.unlimited ()
        (afterAll Device.unlimited (.new ()) [Utf8.encode "S v\n x\n".toList, [0xFF]]) script := by
  have houtside : (afterAll Device.unlimited (.new ())
      [Utf8.encode "S v\n x\n".toList, [0xFF]]).parser.block = none := by
    decide +kernel
  exact ⟨Device.neverFails_unlimited,
    (likeFresh_iff Device.neverFails_unlimited () () _).1.2 houtside⟩

/-- A line that is no text leaves the block before it open, and the next run fails on its first
line, where a first run would write a record. -/
theorem not_likeFresh_behind_open_block :
    ¬ LikeFresh Device.unlimited ()
      (afterAll Device.unlimited (.new ()) [[0x53, 0x20, 0x76, 0x0A, 0xFF, 0x0A]])
      (Utf8.encode "i a\n".toList) := by
  intro h
  have hbytes := h.bytes
  revert hbytes
  decide +kernel

end Session

end Patchbay
