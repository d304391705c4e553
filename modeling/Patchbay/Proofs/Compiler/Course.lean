import Patchbay.Proofs.Compiler.Contract

/-!
# The course of a run

What a run does is decided by the lines of its script and by the block that is open when it begins.
The device decides only how far the run comes.  This file separates the two.

`course` lists the stages of a run, one for each time that a line is offered to the parser and one
for the end of the script, together with the failure that the script leads to, if it leads to one.
No device occurs in it.  `follow` goes through stages on a device and stops at the first record that
cannot be written.  `runOver_eq` says that a run is its course, followed to its end on the device,
so that statements about runs are inductions over the stages of a course.
-/

namespace Patchbay.Session

open Script

variable {σ : Type} (device : Device σ)

/-! ## Stages -/

/-- A point of a run at which a record may be written: the parser at this point, what has been
reported since the last one, and the record. -/
structure Stage where
  parser : Parser
  events : List Event
  record? : Option Record
deriving DecidableEq, Repr

/-- The stage of a reading on the given line. -/
def Stage.ofReading (line start : Nat) (reading : Reading) : Stage :=
  ⟨reading.settled line start, readingEvents line reading, reading.record? line start⟩

/-- The stage of a line that says nothing. -/
def Stage.silent (line start : Nat) (block : Option Block) : Stage :=
  ⟨.resting line start block, [], none⟩

/-- The stage at the end of a script, which completes the open block. -/
def Stage.closing (line start : Nat) (block : Option Block) : Stage :=
  ⟨.resting line start none, closingEvents block, block.map (blockRecord start)⟩

/-- Goes through stages until a record cannot be written. -/
def follow : List Stage → Action σ Unit
  | [] => pure ()
  | stage :: rest => fun s =>
      (writeTaken device stage.record? >>= fun _ => follow rest)
        (s.noted stage.parser stage.events)

theorem follow_cons (stage : Stage) (rest : List Stage) (s : Session σ) :
    follow device (stage :: rest) s =
      (writeTaken device stage.record? >>= fun _ => follow device rest)
        (s.noted stage.parser stage.events) := rfl

/-! ## Courses -/

/-- The stages of a run, and the failure behind the last of them if the script leads to one. -/
structure Course where
  stages : List Stage
  failure? : Option Failure
deriving DecidableEq, Repr

/-- A course with one more stage in front. -/
def Course.behind (stage : Stage) (course : Course) : Course :=
  ⟨stage :: course.stages, course.failure?⟩

/-- The course of a run over the lines that are left after line `n`.  Inside a block, the record of
the block was started on line `start`.  A line that ends a block stays in front of the lines, to be
offered once more. -/
def course (n start : Nat) (block : Option Block) (lines : List Bytes) : Course :=
  match lines with
  | [] => ⟨[.closing n start block], none⟩
  | line :: rest =>
      match Utf8.decode? line with
      | none => ⟨[], some (.stream .invalidUtf8)⟩
      | some text =>
          match Statement.ofLine? (n + 1) text with
          | none => (course (n + 1) start block rest).behind (.silent (n + 1) start block)
          | some st =>
              match hreading : st.reading block with
              | .faulty fault =>
                  ⟨[.ofReading (n + 1) start (.faulty fault)], some (.script ⟨n + 1, fault⟩)⟩
              | .complete instruction =>
                  (course (n + 1) start none rest).behind
                    (.ofReading (n + 1) start (.complete instruction))
              | .opened b =>
                  (course (n + 1) (n + 1) (some b) rest).behind
                    (.ofReading (n + 1) start (.opened b))
              | .extended b =>
                  (course (n + 1) start (some b) rest).behind
                    (.ofReading (n + 1) start (.extended b))
              | .ended b =>
                  (course n start none (line :: rest)).behind
                    (.ofReading (n + 1) start (.ended b))
termination_by 2 * lines.length + block.toList.length
decreasing_by
  · simp only [List.length_cons]
    omega
  · simp only [List.length_cons, Option.toList, List.length_nil]
    omega
  · simp only [List.length_cons, Option.toList, List.length_nil]
    omega
  · simp only [List.length_cons, Option.toList, List.length_nil]
    omega
  · rw [Statement.eq_of_reading_ended ‹st.reading block = .ended b›]
    simp only [Option.toList, List.length_cons, List.length_nil]
    omega

/-- The course of a run at a line whose statement is read, with the lines behind it. -/
def courseOf (n start : Nat) (line : Bytes) (rest : List Bytes) (reading : Reading) : Course :=
  match reading with
  | .faulty fault =>
      ⟨[.ofReading (n + 1) start (.faulty fault)], some (.script ⟨n + 1, fault⟩)⟩
  | .complete instruction =>
      (course (n + 1) start none rest).behind (.ofReading (n + 1) start (.complete instruction))
  | .opened b =>
      (course (n + 1) (n + 1) (some b) rest).behind (.ofReading (n + 1) start (.opened b))
  | .extended b =>
      (course (n + 1) start (some b) rest).behind (.ofReading (n + 1) start (.extended b))
  | .ended b => (course n start none (line :: rest)).behind (.ofReading (n + 1) start (.ended b))

section

variable {n start : Nat} {block : Option Block} {line : Bytes} {rest : List Bytes}
  {text : List Char} {st : Statement}

theorem course_nil (n start : Nat) (block : Option Block) :
    course n start block [] = ⟨[.closing n start block], none⟩ := by
  rw [course]

theorem course_of_not_text (hbytes : Utf8.decode? line = none) :
    course n start block (line :: rest) = ⟨[], some (.stream .invalidUtf8)⟩ := by
  rw [course]
  simp only [hbytes]

theorem course_of_silent (hbytes : Utf8.decode? line = some text)
    (hline : Statement.ofLine? (n + 1) text = none) :
    course n start block (line :: rest) =
      (course (n + 1) start block rest).behind (.silent (n + 1) start block) := by
  rw [course]
  simp only [hbytes, hline]

theorem course_of_statement (hbytes : Utf8.decode? line = some text)
    (hline : Statement.ofLine? (n + 1) text = some st) :
    course n start block (line :: rest) = courseOf n start line rest (st.reading block) := by
  rw [course]
  simp only [hbytes, hline]
  split <;> next hreading => rw [hreading, courseOf]

end

/-- Induction along a course.  Every case comes with the course that is proved to have it. -/
@[elab_as_elim]
theorem course_induction {motive : Nat → Nat → Option Block → List Bytes → Prop}
    (nil : ∀ n start block, course n start block [] = ⟨[.closing n start block], none⟩ →
      motive n start block [])
    (notText : ∀ n start block line rest, Utf8.decode? line = none →
      course n start block (line :: rest) = ⟨[], some (.stream .invalidUtf8)⟩ →
        motive n start block (line :: rest))
    (silent : ∀ n start block text rest, Statement.ofLine? (n + 1) text = none →
      course n start block (Utf8.encode text :: rest) =
          (course (n + 1) start block rest).behind (.silent (n + 1) start block) →
        motive (n + 1) start block rest → motive n start block (Utf8.encode text :: rest))
    (faulty : ∀ n start block text rest st fault, Statement.ofLine? (n + 1) text = some st →
      st.reading block = .faulty fault →
        course n start block (Utf8.encode text :: rest) =
            ⟨[.ofReading (n + 1) start (.faulty fault)], some (.script ⟨n + 1, fault⟩)⟩ →
          motive n start block (Utf8.encode text :: rest))
    (complete : ∀ n start text rest st instruction, Statement.ofLine? (n + 1) text = some st →
      st.reading none = .complete instruction →
        course n start none (Utf8.encode text :: rest) =
            (course (n + 1) start none rest).behind
              (.ofReading (n + 1) start (.complete instruction)) →
          motive (n + 1) start none rest → motive n start none (Utf8.encode text :: rest))
    (opened : ∀ n start text rest st b, Statement.ofLine? (n + 1) text = some st →
      st.reading none = .opened b → b.Sound →
        course n start none (Utf8.encode text :: rest) =
            (course (n + 1) (n + 1) (some b) rest).behind
              (.ofReading (n + 1) start (.opened b)) →
          motive (n + 1) (n + 1) (some b) rest → motive n start none (Utf8.encode text :: rest))
    (extended : ∀ n start b text rest st longer, Statement.ofLine? (n + 1) text = some st →
      st.reading (some b) = .extended longer → longer.Sound →
        course n start (some b) (Utf8.encode text :: rest) =
            (course (n + 1) start (some longer) rest).behind
              (.ofReading (n + 1) start (.extended longer)) →
          motive (n + 1) start (some longer) rest →
            motive n start (some b) (Utf8.encode text :: rest))
    (ended : ∀ n start b text rest st, Statement.ofLine? (n + 1) text = some st →
      st.reading (some b) = .ended b →
        course n start (some b) (Utf8.encode text :: rest) =
            (course n start none (Utf8.encode text :: rest)).behind
              (.ofReading (n + 1) start (.ended b)) →
          motive n start none (Utf8.encode text :: rest) →
            motive n start (some b) (Utf8.encode text :: rest))
    (n start : Nat) (block : Option Block) (lines : List Bytes) : motive n start block lines := by
  -- `course` goes by the reading of a line, from which the block in front of it is known
  induction n, start, block, lines using course.induct with
  | case1 n start block => exact nil n start block (course_nil n start block)
  | case2 n start block line rest hbytes =>
      exact notText n start block line rest hbytes (course_of_not_text hbytes)
  | case3 n start block line rest text hbytes hline ih =>
      obtain rfl := Utf8.encode_of_decode? hbytes
      exact silent n start block text rest hline (course_of_silent hbytes hline) ih
  | case4 n start block line rest text hbytes st hline fault hreading =>
      obtain rfl := Utf8.encode_of_decode? hbytes
      refine faulty n start block text rest st fault hline hreading ?_
      rw [course_of_statement hbytes hline, hreading, courseOf]
  | case5 n start block line rest text hbytes st hline instruction hreading ih =>
      obtain rfl := Utf8.encode_of_decode? hbytes
      cases Statement.reads_of_eq hreading with
      | command hcommand =>
          refine complete n start text rest st instruction hline hreading ?_ ih
          rw [course_of_statement hbytes hline, hreading, courseOf]
  | case6 n start block line rest text hbytes st hline b hreading ih =>
      obtain rfl := Utf8.encode_of_decode? hbytes
      have hcoupled := st.coupled_settled block (n + 1) start
      rw [hreading] at hcoupled
      cases Statement.reads_of_eq hreading with
      | header hcommand =>
          refine opened n start text rest st _ hline hreading (hcoupled.sound _ rfl) ?_ ih
          rw [course_of_statement hbytes hline, hreading, courseOf]
  | case7 n start block line rest text hbytes st hline longer hreading ih =>
      obtain rfl := Utf8.encode_of_decode? hbytes
      cases Statement.reads_of_eq hreading with
      | @body b _ hspace hextend =>
          refine extended n start b text rest st longer hline hreading
            (Block.sound_of_extend hspace hextend) ?_ ih
          rw [course_of_statement hbytes hline, hreading, courseOf]
  | case8 n start block line rest text hbytes st hline b hreading ih =>
      obtain rfl := Utf8.encode_of_decode? hbytes
      -- the line is read once more, now outside of blocks, and is not used up
      obtain rfl := Statement.eq_of_reading_ended hreading
      refine ended n start b text rest st hline hreading ?_ ih
      rw [course_of_statement hbytes hline, hreading, courseOf]

/-- What holds of the stages of silent lines, of readings and of the end of a script holds of all
stages of a course. -/
theorem forall_stages {motive : Stage → Prop}
    (silent : ∀ line start block, motive (.silent line start block))
    (ofReading : ∀ line start reading, motive (.ofReading line start reading))
    (closing : ∀ line start block, motive (.closing line start block))
    (n start : Nat) (block : Option Block) (lines : List Bytes) :
    ∀ stage ∈ (course n start block lines).stages, motive stage := by
  induction n, start, block, lines using course_induction with
  | nil n start block hcourse =>
      rw [hcourse]
      exact List.forall_mem_singleton.2 (closing _ _ _)
  | notText n start block line rest hbytes hcourse =>
      rw [hcourse]
      simp
  | silent n start block text rest hline hcourse ih =>
      rw [hcourse]
      exact List.forall_mem_cons.2 ⟨silent _ _ _, ih⟩
  | faulty n start block text rest st fault hline hreading hcourse =>
      rw [hcourse]
      exact List.forall_mem_singleton.2 (ofReading _ _ _)
  | complete n start text rest st instruction hline hreading hcourse ih =>
      rw [hcourse]
      exact List.forall_mem_cons.2 ⟨ofReading _ _ _, ih⟩
  | opened n start text rest st b hline hreading hsound hcourse ih =>
      rw [hcourse]
      exact List.forall_mem_cons.2 ⟨ofReading _ _ _, ih⟩
  | extended n start b text rest st longer hline hreading hsound hcourse ih =>
      rw [hcourse]
      exact List.forall_mem_cons.2 ⟨ofReading _ _ _, ih⟩
  | ended n start b text rest st hline hreading hcourse ih =>
      rw [hcourse]
      exact List.forall_mem_cons.2 ⟨ofReading _ _ _, ih⟩

/-- What a run does behind its last stage: it fails, or it reports its end. -/
def conclude : Option Failure → Action σ Tally
  | some failure => throw failure
  | none => fun s => .ok s.tally s.concluded

/-- Goes through a course to its end. -/
def Course.run (course : Course) : Action σ Tally :=
  follow device course.stages >>= fun _ => conclude course.failure?

/-- How a part of a run ends, beside the session that it leaves. -/
def ending {α : Type} (action : Action σ α) (s : Session σ) : Except Failure α :=
  match action s with
  | .ok a _ => .ok a
  | .error failure _ => .error failure

theorem eq_ok_of_ending {α : Type} {action : Action σ α} {s : Session σ} {a : α}
    (h : ending action s = .ok a) : action s = .ok a (left action s) := by
  unfold ending at h
  unfold left
  cases hresult : action s with
  | ok b s' =>
      rw [hresult] at h
      cases h
      rfl
  | error failure s' =>
      rw [hresult] at h
      cases h

theorem eq_error_of_ending {α : Type} {action : Action σ α} {s : Session σ} {failure : Failure}
    (h : ending action s = .error failure) : action s = .error failure (left action s) := by
  unfold ending at h
  unfold left
  cases hresult : action s with
  | ok b s' =>
      rw [hresult] at h
      cases h
  | error failure' s' =>
      rw [hresult] at h
      cases h
      rfl

/-! ## A run and its course -/

theorem parser_of_writeTaken_ok {record : Option Record} {s s' : Session σ}
    (h : writeTaken device record s = .ok () s') : s'.parser = s.parser := by
  cases record with
  | none =>
      cases h
      rfl
  | some record => exact parser_of_writeRecord_ok h

/-- Whatever goes on like a course, goes on like a longer course behind a stage. -/
theorem run_behind (stage : Stage) {rest : Action σ Tally} {later : Course}
    (hrest : ∀ t : Session σ, t.parser = stage.parser → rest t = later.run device t)
    (s : Session σ) :
    (writeTaken device stage.record? >>= fun _ => rest) (s.noted stage.parser stage.events) =
      (later.behind stage).run device s := by
  have hrun : (later.behind stage).run device s =
      (writeTaken device stage.record? >>= fun _ => later.run device)
        (s.noted stage.parser stage.events) := by
    rw [Course.run, run_bind, Course.behind, follow_cons, run_bind, run_bind]
    cases writeTaken device stage.record? (s.noted stage.parser stage.events) <;> rfl
  rw [hrun, run_bind, run_bind]
  cases hwrite : writeTaken device stage.record? (s.noted stage.parser stage.events) with
  | error failure left => rfl
  | ok u left => exact hrest left (parser_of_writeTaken_ok device hwrite)

section

variable {n start : Nat} {block : Option Block} {rest : List Bytes} {text : List Char}
  {st : Statement}

theorem feedAll_append (lines later : List Bytes) :
    feedAll device (lines ++ later) = (feedAll device lines >>= fun _ => feedAll device later) := by
  induction lines with
  | nil => rfl
  | cons line lines ih => rw [List.cons_append, feedAll, feedAll, ih, bind_assoc]

theorem feedAll_cons_of_text (text : List Char) (rest : List Bytes) :
    (feedAll device (Utf8.encode text :: rest) >>= fun _ => finish device) =
      (feedLine device text >>= fun _ => feedAll device rest >>= fun _ => finish device) := by
  rw [feedAll, feedBytes, Utf8.decode?_encode, bind_assoc]

/-- A line that is taken by its first offer is one stage. -/
theorem run_of_taken (hline : Statement.ofLine? (n + 1) text = some st)
    (hblock : ∀ b ∈ block, b.Sound)
    {reading : Reading} (hreading : st.reading block = reading) {outcome : Outcome}
    (hanswer : reading.answer (n + 1) = .ok outcome) (hended : ∀ b, reading ≠ .ended b)
    {later : Course}
    (hlater : ∀ t : Session σ, t.parser = reading.settled (n + 1) start →
      (feedAll device rest >>= fun _ => finish device) t = later.run device t)
    (s : Session σ) (hs : s.parser = Parser.resting n start block) :
    (feedAll device (Utf8.encode text :: rest) >>= fun _ => finish device) s =
      (later.behind (.ofReading (n + 1) start reading)).run device s := by
  subst hreading
  have hfeed : feedLine device text s =
      writeTaken device ((st.reading block).record? (n + 1) start)
        (s.noted ((st.reading block).settled (n + 1) start)
          (readingEvents (n + 1) (st.reading block))) := by
    rw [feedLine, offerUntilTaken_eq device hline hblock s hs hended, hanswer]
  rw [feedAll_cons_of_text, run_bind, hfeed, ← run_bind]
  exact run_behind device (.ofReading (n + 1) start (st.reading block)) hlater s

/-- A line that ends a block is one stage, and stays in front of the lines. -/
theorem run_of_ended (hline : Statement.ofLine? (n + 1) text = some st) {b : Block} (hb : b.Sound)
    (hreading : st.reading (some b) = .ended b) {later : Course}
    (hlater : ∀ t : Session σ, t.parser = Parser.resting n start none →
      (feedAll device (Utf8.encode text :: rest) >>= fun _ => finish device) t = later.run device t)
    (s : Session σ) (hs : s.parser = Parser.resting n start (some b)) :
    (feedAll device (Utf8.encode text :: rest) >>= fun _ => finish device) s =
      (later.behind (.ofReading (n + 1) start (.ended b))).run device s := by
  have hfeed := feedLine_of_ended device hline hb s hs hreading
  rw [feedAll_cons_of_text] at hlater ⊢
  rw [run_bind, hfeed, ← run_bind, bind_assoc]
  exact run_behind device (.ofReading (n + 1) start (.ended b)) hlater s

end

/-- The lines that are left and the end of the script, as a course. -/
theorem feedAll_finish_eq {n start : Nat} {block : Option Block} (hblock : ∀ b ∈ block, b.Sound)
    (lines : List Bytes) (s : Session σ) (hs : s.parser = Parser.resting n start block) :
    (feedAll device lines >>= fun _ => finish device) s =
      (course n start block lines).run device s := by
  induction n, start, block, lines using course_induction generalizing s with
  | nil n start block hcourse =>
      have hfinish : (feedAll device [] >>= fun _ => finish device) s = finish device s := rfl
      rw [hcourse, hfinish, finish_eq device hblock s hs, Course.run, run_bind, follow_cons,
        run_bind]
      simp only [Stage.closing]
      cases writeTaken device (block.map (blockRecord start))
        (s.noted (Parser.resting n start none) (closingEvents block)) <;> rfl
  | notText n start block line rest hbytes hcourse =>
      rw [hcourse, feedAll, feedBytes, hbytes]
      rfl
  | silent n start block text rest hline hcourse ih =>
      have hfeed := feedLine_ignored device hline s hs
      rw [hcourse, feedAll_cons_of_text, ← run_behind device _ (ih hblock) s, run_bind_of_ok hfeed]
      simp only [Stage.silent, writeTaken, run_bind, run_pure, noted, List.append_nil]
  | faulty n start block text rest st fault hline hreading hcourse =>
      -- a fault settles the parser before it is passed on, and nothing is left to be written
      have hended : ∀ b, st.reading block ≠ .ended b := by simp [hreading]
      have hfeed : feedLine device text s =
          .error (.script ⟨n + 1, fault⟩)
            { s with parser := Parser.resting (n + 1) start none } := by
        rw [feedLine, offerUntilTaken_eq device hline hblock s hs hended, hreading]
        rfl
      rw [hcourse, feedAll_cons_of_text, run_bind, hfeed, Course.run, run_bind, follow_cons]
      simp only [Stage.ofReading, Reading.record?, readingEvents, writeTaken, run_bind, run_pure,
        noted, List.append_nil]
      rfl
  | complete n start text rest st instruction hline hreading hcourse ih =>
      rw [hcourse]
      exact run_of_taken device hline hblock hreading rfl (by simp) (ih (by simp)) s hs
  | opened n start text rest st b hline hreading hsound hcourse ih =>
      rw [hcourse]
      exact run_of_taken device hline hblock hreading rfl (by simp) (ih (by simpa)) s hs
  | extended n start b text rest st longer hline hreading hsound hcourse ih =>
      rw [hcourse]
      exact run_of_taken device hline hblock hreading rfl (by simp) (ih (by simpa)) s hs
  | ended n start b text rest st hline hreading hcourse ih =>
      rw [hcourse]
      exact run_of_ended device hline (hblock b rfl) hreading (ih (by simp)) s hs

/-- The session at the beginning of a run. -/
def started (s : Session σ) : Session σ :=
  { s with journal := [.message "Translating input..."] }

/-- A run is its course, followed on the device. -/
theorem runOver_eq {n start : Nat} {block : Option Block} (hblock : ∀ b ∈ block, b.Sound)
    (script : Bytes) (s : Session σ) (hs : s.parser = Parser.resting n start block) :
    runOver device script s =
      (course n start block (Source.lines script)).run device s.started := by
  have hstart : Session.start s = .ok () s.started := rfl
  rw [runOver, run_bind_of_ok hstart]
  exact feedAll_finish_eq device hblock (Source.lines script) s.started hs

theorem runOver_new_eq (script : Bytes) (state : σ) :
    runOver device script (.new state) =
      (course 0 0 none (Source.lines script)).run device (Session.new state).started :=
  runOver_eq device (by simp) script (.new state) rfl

/-! ## Runs in turn -/

/-- The session after runs over scripts, one after the other. -/
def afterAll (s : Session σ) (scripts : List Bytes) : Session σ :=
  scripts.foldl (fun s script => left (runOver device script) s) s

theorem afterAll_concat (s : Session σ) (before : List Bytes) (script : Bytes) :
    afterAll device s (before ++ [script]) =
      left (runOver device script) (afterAll device s before) := by
  rw [afterAll, List.foldl_append]
  rfl

theorem coupled_afterAll (scripts : List Bytes) {s : Session σ} (hs : s.parser.Coupled) :
    (afterAll device s scripts).parser.Coupled := by
  induction scripts generalizing s with
  | nil => exact hs
  | cons script rest ih => exact ih ((keeps_runOver device script).left hs)

end Patchbay.Session
