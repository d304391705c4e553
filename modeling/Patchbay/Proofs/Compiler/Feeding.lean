import Patchbay.Compiler.Session
import Patchbay.Proofs.Script.Coupling

/-!
# What a line does to a session

A session gives a line to its parser, reports what the line did and writes the record that was
sealed, if any.  For a parser in step all of this is known from the reading of the line:
`offer_eq` and `offer_ignored` replace the parser by the reading, so that only the writing of a
record is left.  They hold for every device; nothing here depends on whether a write succeeds.

A line that stands behind a block is offered twice.  Its first reading ends the block and its second
reading is the one it has outside of blocks, which is what `feedLine_of_ended` says.
-/

namespace Patchbay.Session

open Script

variable {σ : Type} (device : Device σ)

/-! ## Reports -/

/-- What is logged about a reading on the given line. -/
def readingEvents (line : Nat) : Reading → List Event
  | .faulty _ => []
  | .complete _ => []
  | .opened block => [.log (.blockOpened line block.kind.opcode block.element)]
  | .extended _ => []
  | .ended block =>
      [.log (.blockClosed block.element block.assignments.length), .log (.lineRepeated line)]

/-- The session after a reading, when its record has been taken and not been written. -/
def noted (s : Session σ) (parser : Parser) (events : List Event) : Session σ :=
  { s with parser, journal := s.journal ++ events }

/-- Writes a record, if there is one. -/
def writeTaken : Option Record → Action σ Unit
  | none => pure ()
  | some record => writeRecord device record

theorem writeSealed_of_release {s : Session σ} {record : Option Record} {parser : Parser}
    (h : Parser.build RecordBuilder.releaseSealed? s.parser = .ok record parser) :
    writeSealed device s = writeTaken device record { s with parser } := by
  have hrelease : parserDo (Parser.build RecordBuilder.releaseSealed?) s =
      .ok record { s with parser } := by
    rw [parserDo, h]
  rw [writeSealed, run_bind_of_ok hrelease]
  cases record <;> rfl

/-! ## Writing a record -/

/-- Writes the bytes of a record and flushes them. -/
def deliver (bytes : Bytes) (sink : Sink σ) : Except StreamError Unit × Sink σ :=
  match Sink.writeAll device bytes sink with
  | (.ok (), sink) => Sink.flush device sink
  | (.error fault, sink) => (.error fault, sink)

/-- The session that has counted and announced a record. -/
def announced (s : Session σ) (record : Record) : Session σ :=
  { s with
    instructions := s.instructions + 1
    journal := s.journal ++ [.message (recordMessage record),
      .log (.recordWritten record.line record.bytes.length record.description)] }

/-- A record is counted and announced before its first byte is written. -/
theorem writeRecord_eq (record : Record) (s : Session σ) :
    writeRecord device record s =
      sinkDo (deliver device record.bytes) (s.announced record) := by
  -- the first three steps only count and report
  have hannounced : writeRecord device record s =
      (sinkDo (Sink.writeAll device record.bytes) >>= fun _ => sinkDo (Sink.flush device))
        (s.announced record) := by
    unfold announced
    rw [← List.singleton_append, ← List.append_assoc]
    rfl
  rw [hannounced, run_bind]
  simp only [sinkDo, deliver]
  cases Sink.writeAll device record.bytes (s.announced record).sink with
  | mk result sink =>
      cases result with
      | error fault => rfl
      | ok u => rfl

theorem parser_of_sinkDo_ok {operation : Sink σ → Except StreamError Unit × Sink σ}
    {s s' : Session σ} (h : sinkDo operation s = .ok () s') : s'.parser = s.parser := by
  unfold sinkDo at h
  split at h
  · cases h
    rfl
  · cases h

theorem parser_of_writeRecord_ok {device : Device σ} {record : Record} {s s' : Session σ}
    (h : writeRecord device record s = .ok () s') : s'.parser = s.parser := by
  rw [writeRecord_eq] at h
  exact (parser_of_sinkDo_ok h).trans rfl

/-! ## One offer -/

theorem offer_ignored {line : List Char} {n start : Nat} {block : Option Block}
    (hline : Statement.ofLine? (n + 1) line = none) (s : Session σ)
    (hs : s.parser = Parser.resting n start block) :
    offer device line s =
      .ok .taken { s with parser := Parser.resting (n + 1) start block } := by
  have hparse : parserDo (Parser.parse line) s =
      .ok (.ok .taken) { s with parser := Parser.resting (n + 1) start block } := by
    rw [parserDo, Parser.parse_of_ignored (Statement.isIgnored_of_ofLine?_eq_none hline), hs]
    cases block <;> rfl
  have hwrite := writeSealed_of_release device
    (s := { s with parser := Parser.resting (n + 1) start block })
    (Parser.release_resting (n + 1) start block)
  rw [offer, run_bind_of_ok hparse]
  simp only [logOutcome, run_bind, run_get, run_pure, hwrite, writeTaken]

/-- What is logged about an offer is what its reading says. -/
theorem logOutcome_of_answer {reading : Reading} {n start : Nat} {outcome : Outcome}
    (h : reading.answer (n + 1) = .ok outcome) (s : Session σ)
    (hs : s.parser = (reading.settled (n + 1) start).holding (reading.record? (n + 1) start)) :
    logOutcome outcome s =
      .ok () { s with journal := s.journal ++ readingEvents (n + 1) reading } := by
  have hpure : ∀ t : Session σ, { t with journal := t.journal ++ [] } = t := by
    intro t
    rw [List.append_nil]
  cases reading with
  | faulty fault => cases h
  | complete instruction =>
      cases h
      exact congrArg (EStateM.Result.ok ()) (hpure s).symm
  | extended block =>
      cases h
      exact congrArg (EStateM.Result.ok ()) (hpure s).symm
  | opened block =>
      cases h
      -- the header of a block is a line that has been counted
      have hline : s.parser.line = n + 1 := by
        rw [hs]
        rfl
      simp only [logOutcome, run_bind, run_get, hline, readingEvents]
      rfl
  | ended block =>
      cases h
      -- the line that ends a block is given back, so the number is the one before
      have hline : s.parser.line = n := by
        rw [hs]
        rfl
      simp only [logOutcome, run_bind, run_get, hline, readingEvents]
      rw [← List.singleton_append, ← List.append_assoc]
      rfl

/-- Only the record of the reading is left to be written. -/
theorem offer_eq {line : List Char} {st : Statement} {n start : Nat} {block : Option Block}
    (hline : Statement.ofLine? (n + 1) line = some st) (hblock : ∀ b ∈ block, b.Sound)
    (s : Session σ) (hs : s.parser = Parser.resting n start block) :
    offer device line s =
      match (st.reading block).answer (n + 1) with
      | .error error =>
          .error (.script error) { s with parser := (st.reading block).settled (n + 1) start }
      | .ok outcome =>
          (writeTaken device ((st.reading block).record? (n + 1) start) >>= fun _ => pure outcome)
            (s.noted ((st.reading block).settled (n + 1) start)
              (readingEvents (n + 1) (st.reading block))) := by
  have hparse := Parser.parse_resting hline start hblock
  generalize st.reading block = reading at hparse ⊢
  let parsed : Session σ := { s with
    parser := (reading.settled (n + 1) start).holding (reading.record? (n + 1) start) }
  have hoffer : parserDo (Parser.parse line) s = .ok (reading.answer (n + 1)) parsed := by
    rw [parserDo, hs, hparse]
  rw [offer, run_bind_of_ok hoffer]
  cases hanswer : reading.answer (n + 1) with
  | error error =>
      -- a faulty reading has no record to hold
      cases reading with
      | faulty fault => rfl
      | _ => cases hanswer
  | ok outcome =>
      have hlog := logOutcome_of_answer hanswer parsed rfl
      have hwrite := writeSealed_of_release device
        (s := { parsed with journal := parsed.journal ++ readingEvents (n + 1) reading })
        (Parser.release_holding reading (n + 1) start)
      simp only [run_bind, hlog, hwrite]
      rfl

/-! ## One line -/

theorem feedLine_ignored {line : List Char} {n start : Nat} {block : Option Block}
    (hline : Statement.ofLine? (n + 1) line = none) (s : Session σ)
    (hs : s.parser = Parser.resting n start block) :
    feedLine device line s = .ok () { s with parser := Parser.resting (n + 1) start block } := by
  rw [feedLine, offerUntilTaken, run_bind_of_ok (offer_ignored device hline s hs)]
  rfl

/-- The record of a block that a statement ends. -/
def blockRecord (start : Nat) (block : Block) : Record :=
  ⟨start, block.instruction.description, block.instruction.wire⟩

/-- A line that ends no block is offered once, however often it could be. -/
theorem offerUntilTaken_eq {line : List Char} {st : Statement} {n start : Nat}
    {block : Option Block} (hline : Statement.ofLine? (n + 1) line = some st)
    (hblock : ∀ b ∈ block, b.Sound) (s : Session σ)
    (hs : s.parser = Parser.resting n start block)
    (hreading : ∀ b, st.reading block ≠ .ended b) (attempts : Nat) :
    offerUntilTaken device line (attempts + 1) s =
      match (st.reading block).answer (n + 1) with
      | .error error =>
          .error (.script error) { s with parser := (st.reading block).settled (n + 1) start }
      | .ok _ =>
          writeTaken device ((st.reading block).record? (n + 1) start)
            (s.noted ((st.reading block).settled (n + 1) start)
              (readingEvents (n + 1) (st.reading block))) := by
  rw [offerUntilTaken, run_bind, offer_eq device hline hblock s hs]
  generalize st.reading block = reading at hreading ⊢
  cases hwrite : writeTaken device (reading.record? (n + 1) start)
    (s.noted (reading.settled (n + 1) start) (readingEvents (n + 1) reading)) with
  | error failure left =>
      cases reading with
      | faulty fault => rfl
      | ended b => exact absurd rfl (hreading b)
      | _ => simp only [Reading.answer, run_bind, hwrite]
  | ok u left =>
      cases reading with
      | faulty fault => rfl
      | ended b => exact absurd rfl (hreading b)
      | _ => simp only [Reading.answer, run_bind, hwrite, run_pure]

theorem reading_none_ne_ended (st : Statement) (b : Block) : st.reading none ≠ .ended b := by
  intro h
  cases Statement.eq_of_reading_ended h

/-- A line behind a block is fed once more when the record of the block has been written. -/
theorem feedLine_of_ended {line : List Char} {st : Statement} {n start : Nat} {b : Block}
    (hline : Statement.ofLine? (n + 1) line = some st) (hb : b.Sound) (s : Session σ)
    (hs : s.parser = Parser.resting n start (some b)) (hreading : st.reading (some b) = .ended b) :
    feedLine device line s =
      (writeRecord device (blockRecord start b) >>= fun _ => feedLine device line)
        (s.noted (Parser.resting n start none) (readingEvents (n + 1) (.ended b))) := by
  have hblock : ∀ c ∈ some b, c.Sound := by
    rintro c ⟨⟩
    exact hb
  have hoffer := offer_eq device hline hblock s hs
  rw [hreading] at hoffer
  have hsettled : Reading.settled (n + 1) start (.ended b) = Parser.resting n start none := rfl
  simp only [Reading.answer, Reading.record?, hsettled, writeTaken] at hoffer
  -- the first offer ends the block, so there is one attempt left
  have hfirst : feedLine device line s =
      (writeRecord device (blockRecord start b) >>= fun _ => offerUntilTaken device line 1)
        (s.noted (Parser.resting n start none) (readingEvents (n + 1) (.ended b))) := by
    rw [feedLine, offerUntilTaken, run_bind, hoffer, run_bind, run_bind, ← blockRecord]
    cases writeRecord device (blockRecord start b)
      (s.noted (Parser.resting n start none) (readingEvents (n + 1) (.ended b))) <;> rfl
  rw [hfirst, run_bind, run_bind]
  cases hwrite : writeRecord device (blockRecord start b)
    (s.noted (Parser.resting n start none) (readingEvents (n + 1) (.ended b))) with
  | error failure left => rfl
  | ok u left =>
      -- writing leaves the parser outside of blocks, so one more offer is enough
      have hparser : left.parser = Parser.resting n start none := parser_of_writeRecord_ok hwrite
      have hagain := offerUntilTaken_eq device hline (by simp) left hparser
        (reading_none_ne_ended st)
      exact (hagain 0).trans (hagain 1).symm

/-! ## The end of a run -/

/-- What is logged about the block that the end of the script closes. -/
def closingEvents : Option Block → List Event
  | none => []
  | some block => [.log (.blockClosed block.element block.assignments.length)]

def tally (s : Session σ) : Tally :=
  ⟨s.parser.line, s.instructions⟩

/-- The session that has reported the end of a run. -/
def concluded (s : Session σ) : Session σ :=
  { s with journal := s.journal ++
    [.log (.runFinished s.parser.line s.instructions), .message "Translation succeeded",
      .message ("Parsed " ++ toString s.parser.line ++ " lines"),
      .message ("Wrote " ++ toString s.instructions ++ " instructions"), .message "Done"] }

theorem noted_nil (s : Session σ) : s.noted s.parser [] = s := by
  rw [noted, List.append_nil]

/-- After the parser has been closed, the record is written and the end is reported. -/
theorem finish_of_close {s closed : Session σ} {block : Option Block}
    (h : parserDo Parser.close s = .ok block closed) :
    finish device s =
      match writeSealed device (closed.noted closed.parser (closingEvents block)) with
      | .error failure left => .error failure left
      | .ok () left => .ok left.tally left.concluded := by
  have hreport : ∀ left : Session σ, left.concluded = { left with journal :=
      left.journal ++ [.log (.runFinished left.parser.line left.instructions)] ++
        [.message "Translation succeeded"] ++
        [.message ("Parsed " ++ toString left.parser.line ++ " lines")] ++
        [.message ("Wrote " ++ toString left.instructions ++ " instructions")] ++
        [.message "Done"] } := by
    intro left
    simp [concluded]
  rw [finish, run_bind_of_ok h]
  cases block with
  | none =>
      rw [closingEvents, noted_nil]
      simp only [run_bind, run_pure, run_get]
      cases writeSealed device closed with
      | error failure left => rfl
      | ok u left =>
          simp only [hreport]
          rfl
  | some b =>
      have hlog : report (.log (.blockClosed b.element b.assignments.length)) closed =
          .ok () (closed.noted closed.parser (closingEvents (some b))) := rfl
      simp only [run_bind, run_pure, run_get, hlog]
      cases writeSealed device (closed.noted closed.parser (closingEvents (some b))) with
      | error failure left => rfl
      | ok u left =>
          simp only [hreport]
          rfl

/-- At the end of a run only the record of an open block is left to be written. -/
theorem finish_eq {n start : Nat} {block : Option Block} (hblock : ∀ b ∈ block, b.Sound)
    (s : Session σ) (hs : s.parser = Parser.resting n start block) :
    finish device s =
      match writeTaken device (block.map (blockRecord start))
          (s.noted (Parser.resting n start none) (closingEvents block)) with
      | .error failure left => .error failure left
      | .ok () left => .ok left.tally left.concluded := by
  have hclose : parserDo Parser.close s = .ok block { s with
      parser := (Parser.resting n start none).holding (block.map (blockRecord start)) } := by
    rw [parserDo, hs, Parser.close_resting n start hblock]
    rfl
  have hrelease : Parser.build RecordBuilder.releaseSealed?
      ((Parser.resting n start none).holding (block.map (blockRecord start))) =
        .ok (block.map (blockRecord start)) (Parser.resting n start none) := by
    cases block <;> rfl
  have hwrite := writeSealed_of_release device
    (s := s.noted ((Parser.resting n start none).holding (block.map (blockRecord start)))
      (closingEvents block)) hrelease
  have hfinish := finish_of_close device hclose
  simp only [noted] at hfinish hwrite ⊢
  rw [hfinish, hwrite]

end Patchbay.Session
