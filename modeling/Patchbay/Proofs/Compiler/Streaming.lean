import Patchbay.Proofs.Compiler.Feeding
import Patchbay.Proofs.Script.Resumption

/-!
# Compiling line by line and as a whole

A run takes a script line by line, writes every record as soon as it is complete, and gives a line
to the parser twice when the line ends a block.  The main statement of this file,
`compile_eq_wholeStream`, says that none of this can be seen from outside: the stream, or else the
error with its line, is that of the constructs of the script.

The proof compares what a session has still to do with `resume`, the meaning of the statements that
are left.  One line changes both sides in the same way (`follows_feedLine`), and at the end of the
script both have at most the open block left.
-/

namespace Patchbay

open Script

/-- What a script compiles to when its instructions, or its error, are known and `written` has been
written before. -/
def compiled (written : Bytes) : Except ScriptError (List Instruction) → Except Failure Bytes
  | .ok instructions => .ok (written ++ instructions.flatMap Instruction.wire)
  | .error error => .error (.script error)

theorem compiled_cons (written : Bytes) (instruction : Instruction)
    (rest : Except ScriptError (List Instruction)) :
    compiled written (rest.map (instruction :: ·)) =
      compiled (written ++ instruction.wire) rest := by
  cases rest with
  | error error => rfl
  | ok instructions =>
      simp only [Except.map, compiled, List.flatMap_cons, List.append_assoc]

/-- A device that takes something of everything it is offered, and can always be flushed. -/
structure Device.NeverFails {σ : Type} (device : Device σ) : Prop where
  write : ∀ (bytes : Bytes) (state : σ), bytes ≠ [] →
    ∃ count next, device.write bytes state = (.ok (count + 1), next)
  flush : ∀ state : σ, ∃ next, device.flush state = (.ok (), next)

theorem Device.neverFails_unlimited : Device.unlimited.NeverFails := by
  constructor
  · intro bytes state hbytes
    obtain ⟨b, rest, rfl⟩ := List.exists_cons_of_ne_nil hbytes
    exact ⟨rest.length, state, rfl⟩
  · intro state
    exact ⟨state, rfl⟩

namespace Session

/-- What can be seen of a run on a device that takes everything. -/
def outcome {α : Type} : EStateM.Result Failure (Session Unit) α → Except Failure Bytes
  | .ok _ s => .ok s.sink.taken
  | .error failure _ => .error failure

/-! ## Writing -/

section

variable {σ : Type} {device : Device σ}

theorem writeAll_of_neverFails (hdevice : device.NeverFails) (bytes : Bytes) (sink : Sink σ) :
    ∃ state, Sink.writeAll device bytes sink =
      (.ok (), { sink with device := state, pending := sink.pending ++ bytes }) := by
  induction h : bytes.length using Nat.strong_induction_on generalizing bytes sink with
  | _ size ih =>
      by_cases hempty : bytes = []
      · refine ⟨sink.device, ?_⟩
        rw [Sink.writeAll, dif_pos hempty, hempty, List.append_nil]
      · obtain ⟨count, next, hwrite⟩ := hdevice.write bytes sink.device hempty
        have hshorter : (bytes.drop (count + 1)).length < size := by
          have hpos := List.length_pos_iff.2 hempty
          rw [List.length_drop]
          omega
        -- what the device has not taken is offered again
        obtain ⟨state, hrest⟩ := ih _ hshorter (bytes.drop (count + 1))
          { sink with device := next, pending := sink.pending ++ bytes.take (count + 1) } rfl
        refine ⟨state, ?_⟩
        rw [Sink.writeAll, dif_neg hempty, hwrite]
        simp only [hrest, List.append_assoc, List.take_append_drop]

theorem deliver_of_neverFails (hdevice : device.NeverFails) (bytes : Bytes) (sink : Sink σ) :
    ∃ left, deliver device bytes sink = (.ok (), left) ∧ left.taken = sink.taken ++ bytes := by
  obtain ⟨written, hwrite⟩ := writeAll_of_neverFails hdevice bytes sink
  obtain ⟨next, hflush⟩ := hdevice.flush written
  refine ⟨⟨next, sink.flushed ++ [sink.pending ++ bytes], []⟩, ?_, ?_⟩
  · rw [deliver, hwrite]
    simp only [Sink.flush, hflush]
  · simp only [Sink.taken, List.flatten_append, List.flatten_singleton, List.append_nil,
      List.append_assoc]

theorem writeTaken_of_neverFails (hdevice : device.NeverFails) (record : Option Record)
    (s : Session σ) :
    ∃ left, writeTaken device record s = .ok () left ∧ left.parser = s.parser ∧
      left.instructions = s.instructions + record.toList.length ∧
        left.sink.taken = s.sink.taken ++ record.toList.flatMap Record.bytes := by
  cases record with
  | none => exact ⟨s, rfl, rfl, rfl, (List.append_nil _).symm⟩
  | some record =>
      obtain ⟨sink, hdeliver, htaken⟩ := deliver_of_neverFails hdevice record.bytes s.sink
      refine ⟨{ s.announced record with sink }, ?_, rfl, rfl, ?_⟩
      · have hsink : (s.announced record).sink = s.sink := rfl
        rw [writeTaken, writeRecord_eq, sinkDo, hsink, hdeliver]
      · rw [Option.toList, List.flatMap_singleton]
        exact htaken

end

theorem writeRecord_unlimited (record : Record) (s : Session Unit) :
    ∃ left, writeRecord Device.unlimited record s = .ok () left ∧ left.parser = s.parser ∧
      left.sink.taken = s.sink.taken ++ record.bytes := by
  obtain ⟨left, hwrite, hparser, -, htaken⟩ :=
    writeTaken_of_neverFails Device.neverFails_unlimited (some record) s
  rw [Option.toList, List.flatMap_singleton] at htaken
  exact ⟨left, hwrite, hparser, htaken⟩

/-! ## One line -/

/-- What is left of a run after line `n` does what the statements that are left mean. -/
def Follows (rest : Action Unit Tally) (n : Nat) (following : List Statement) : Prop :=
  ∀ (start : Nat) (block : Option Block) (s : Session Unit), (∀ b ∈ block, b.Sound) →
    s.parser = Parser.resting n start block →
      outcome (rest s) = compiled s.sink.taken (resume block following)

section

variable {rest : Action Unit Tally} {n : Nat} {following : List Statement} {line : List Char}
  {st : Statement} {start : Nat}

theorem outcome_feedLine_of_taken (hrest : Follows rest (n + 1) following)
    (hline : Statement.ofLine? (n + 1) line = some st) {block : Option Block}
    (hblock : ∀ b ∈ block, b.Sound) (s : Session Unit)
    (hs : s.parser = Parser.resting n start block) (hreading : ∀ b, st.reading block ≠ .ended b) :
    outcome ((feedLine Device.unlimited line >>= fun _ => rest) s) =
      compiled s.sink.taken (resume block (st :: following)) := by
  have hnumber : st.line = n + 1 := (Statement.trimEnd_of_ofLine?_eq_some hline).1
  have hcoupled := st.coupled_settled block (n + 1) start
  rw [run_bind, feedLine, offerUntilTaken_eq Device.unlimited hline hblock s hs hreading,
    resume_cons st hblock]
  -- from here on the line is known by its reading only
  generalize st.reading block = reading at hreading hcoupled ⊢
  cases reading with
  | faulty fault =>
      simp only [Reading.answer, Reading.outlook, hnumber]
      rfl
  | complete instruction =>
      obtain ⟨left, hwrite, hparser, htaken⟩ := writeRecord_unlimited
        ⟨n + 1, instruction.description, instruction.wire⟩
        (s.noted (Parser.resting (n + 1) start none) [])
      simp only [Reading.answer, Reading.record?, Reading.settled, readingEvents, writeTaken,
        hwrite]
      rw [hrest start none left (by simp) hparser, htaken, Reading.outlook, compiled_cons]
      rfl
  | opened b =>
      simp only [Reading.answer, Reading.record?, writeTaken, run_pure]
      exact hrest (n + 1) (some b) _ hcoupled.sound rfl
  | extended b =>
      simp only [Reading.answer, Reading.record?, writeTaken, run_pure]
      exact hrest start (some b) _ hcoupled.sound rfl
  | ended b => exact absurd rfl (hreading b)

/-- The line behind a block writes the record of the block, and is then taken like a line outside
of blocks. -/
theorem outcome_feedLine_of_ended (hrest : Follows rest (n + 1) following)
    (hline : Statement.ofLine? (n + 1) line = some st) {b : Block} (hb : b.Sound)
    (s : Session Unit) (hs : s.parser = Parser.resting n start (some b))
    (hreading : st.reading (some b) = .ended b) :
    outcome ((feedLine Device.unlimited line >>= fun _ => rest) s) =
      compiled s.sink.taken (resume (some b) (st :: following)) := by
  have hblock : ∀ c ∈ some b, c.Sound := by
    rintro c ⟨⟩
    exact hb
  obtain ⟨left, hwrite, hparser, htaken⟩ := writeRecord_unlimited (blockRecord start b)
    (s.noted (Parser.resting n start none) (readingEvents (n + 1) (.ended b)))
  -- once the record is written, the line is fed to a session outside of blocks
  have hfeed : feedLine Device.unlimited line s = feedLine Device.unlimited line left := by
    rw [feedLine_of_ended Device.unlimited hline hb s hs hreading, run_bind_of_ok hwrite]
  have hresting : left.parser = Parser.resting n start none := hparser
  have htake := outcome_feedLine_of_taken hrest hline (by simp) left hresting
    (reading_none_ne_ended st)
  rw [run_bind, hfeed, ← run_bind, htake, resume_cons st hblock, hreading, Reading.outlook,
    compiled_cons, htaken]
  rfl

end

/-- One line does to a run what its statement does to the meaning of the script. -/
theorem follows_feedLine {rest : Action Unit Tally} {n : Nat} {lines : List (List Char)}
    (hrest : Follows rest (n + 1) (statements (n + 2) lines)) (line : List Char) :
    Follows (feedLine Device.unlimited line >>= fun _ => rest) n
      (statements (n + 1) (line :: lines)) := by
  intro start block s hblock hs
  rw [statements]
  cases hline : Statement.ofLine? (n + 1) line with
  | none =>
      rw [run_bind_of_ok (feedLine_ignored Device.unlimited hline s hs)]
      exact hrest start block _ hblock rfl
  | some st =>
      by_cases hreading : ∀ b, st.reading block ≠ .ended b
      · exact outcome_feedLine_of_taken hrest hline hblock s hs hreading
      · obtain ⟨b, hended⟩ := not_forall_not.1 hreading
        obtain rfl := Statement.eq_of_reading_ended hended
        exact outcome_feedLine_of_ended hrest hline (hblock b rfl) s hs hended

/-! ## The whole script -/

/-- The end of the script completes the open block. -/
theorem follows_finish (n : Nat) : Follows (finish Device.unlimited) n [] := by
  intro start block s hblock hs
  rw [finish_eq Device.unlimited hblock s hs, resume_nil hblock]
  cases block with
  | none =>
      simp only [Option.map_none, writeTaken, run_pure]
      simp only [outcome, compiled, Option.toList, List.map_nil, List.flatMap_nil, List.append_nil]
      rfl
  | some b =>
      obtain ⟨left, hwrite, -, htaken⟩ := writeRecord_unlimited (blockRecord start b)
        (s.noted (Parser.resting n start none) (closingEvents (some b)))
      simp only [Option.map_some, writeTaken, hwrite]
      simp only [outcome, compiled, Option.toList, List.map_cons, List.map_nil,
        List.flatMap_singleton]
      exact congrArg Except.ok htaken

theorem follows_feedAll (lines : List (List Char)) (n : Nat) :
    Follows
      (feedAll Device.unlimited (lines.map Utf8.encode) >>= fun _ => finish Device.unlimited) n
      (statements (n + 1) lines) := by
  induction lines generalizing n with
  | nil => exact follows_finish n
  | cons line lines ih =>
      -- the bytes of the line are read back as the line
      have hfeed : (feedAll Device.unlimited ((line :: lines).map Utf8.encode) >>= fun _ =>
          finish Device.unlimited) =
          (feedLine Device.unlimited line >>= fun _ =>
            feedAll Device.unlimited (lines.map Utf8.encode) >>= fun _ =>
              finish Device.unlimited) := by
        rw [List.map_cons, feedAll, feedBytes, Utf8.decode?_encode, bind_assoc]
      rw [hfeed]
      exact follows_feedLine (ih (n + 1)) line

end Session

/-- A run writes the records of the constructs, or stops at the first that has none. -/
theorem compile_eq_compiled (script : String) :
    compile script = compiled [] (instructionsOf (constructsOf script)) := by
  have hrun : compile script = Session.outcome
      (Session.runOver Device.unlimited (Utf8.encode script.toList) (.new ())) := by
    unfold compile
    cases Session.runOver Device.unlimited (Utf8.encode script.toList) (.new ()) <;> rfl
  have hstart : Session.start (Session.new ()) =
      .ok () ((Session.new ()).noted .initial [.message "Translating input..."]) := rfl
  rw [hrun, Session.runOver, run_bind_of_ok hstart, Source.lines_encode]
  exact Session.follows_feedAll (Source.physicalLines script.toList) 0 0 none _ (by simp) rfl

/-- Compiling a script line by line is compiling it as a whole. -/
theorem compile_eq_wholeStream (script : String) :
    compile script = (wholeStream script).mapError Failure.script := by
  rw [compile_eq_compiled, wholeStream]
  cases instructionsOf (constructsOf script) <;> rfl

end Patchbay
