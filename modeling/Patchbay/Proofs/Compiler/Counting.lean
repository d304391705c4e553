import Patchbay.Proofs.Compiler.Course

/-!
# Every line is counted once

The parser counts a line whenever it is offered one, and a line behind a block is offered twice; in
between the parser gives it back.  So each line that is fed to a session is counted exactly once, by
whichever offer takes it or finds a fault in it (`countsOne_feedLine`), and the number in an error is
the number of lines that have been fed.  A device that fails between the two offers is the exception,
and the run is then over.
-/

namespace Patchbay

namespace Session

open Script

variable {σ : Type} (device : Device σ)

/-! ## One line -/

/-- A result that leaves one line more than `n` counted, which is the line of the error if there is
one in the script.  Nothing is said of a device that fails. -/
def CountsOne (n : Nat) : EStateM.Result Failure (Session σ) Unit → Prop
  | .ok _ s => s.parser.line = n + 1
  | .error (.script error) s => error.line = n + 1 ∧ s.parser.line = n + 1
  | .error (.stream _) _ => True
  | .error (.misuse _) _ => False

/-- Only the device can stop a record from being written. -/
theorem stream_of_writeRecord_error {record : Record} {s s' : Session σ} {failure : Failure}
    (h : writeRecord device record s = .error failure s') : ∃ fault, failure = .stream fault := by
  rw [writeRecord_eq, sinkDo] at h
  split at h
  · cases h
  · cases h
    exact ⟨_, rfl⟩

theorem countsOne_writeTaken (record? : Option Record) {s : Session σ} {n : Nat}
    (hs : s.parser.line = n + 1) : CountsOne n (writeTaken device record? s) := by
  cases hwrite : writeTaken device record? s with
  | ok u s' => exact (congrArg Parser.line (parser_of_writeTaken_ok device hwrite)).trans hs
  | error failure s' =>
      cases record? with
      | none => cases hwrite
      | some record =>
          obtain ⟨fault, rfl⟩ := stream_of_writeRecord_error device hwrite
          trivial

section

variable {text : List Char} {st : Statement} {s : Session σ} {n start : Nat}

theorem countsOne_feedLine_of_taken {block : Option Block} (hblock : ∀ b ∈ block, b.Sound)
    (hs : s.parser = Parser.resting n start block)
    (hline : Statement.ofLine? (n + 1) text = some st)
    (hreading : ∀ b, st.reading block ≠ .ended b) : CountsOne n (feedLine device text s) := by
  rw [feedLine, offerUntilTaken_eq device hline hblock s hs hreading]
  generalize st.reading block = reading at hreading ⊢
  cases reading with
  | faulty fault => exact ⟨rfl, rfl⟩
  | complete instruction => exact countsOne_writeTaken device _ rfl
  | opened b => exact countsOne_writeTaken device _ rfl
  | extended b => exact countsOne_writeTaken device _ rfl
  | ended b => exact absurd rfl (hreading b)

/-- The first offer of a line behind a block does not count it. -/
theorem countsOne_feedLine_of_ended {b : Block} (hb : b.Sound)
    (hs : s.parser = Parser.resting n start (some b))
    (hline : Statement.ofLine? (n + 1) text = some st) (hreading : st.reading (some b) = .ended b) :
    CountsOne n (feedLine device text s) := by
  rw [feedLine_of_ended device hline hb s hs hreading, run_bind]
  cases hwrite : writeRecord device (blockRecord start b)
    (s.noted (Parser.resting n start none) (readingEvents (n + 1) (.ended b))) with
  | error failure s' =>
      obtain ⟨fault, rfl⟩ := stream_of_writeRecord_error device hwrite
      trivial
  | ok u s' =>
      have hparser : s'.parser = Parser.resting n start none := parser_of_writeRecord_ok hwrite
      exact countsOne_feedLine_of_taken device (by simp) hparser hline (reading_none_ne_ended st)

end

theorem countsOne_feedLine (text : List Char) {s : Session σ} (hs : s.parser.Coupled) :
    CountsOne s.parser.line (feedLine device text s) := by
  obtain ⟨start, hresting⟩ := hs.eq_resting
  cases hline : Statement.ofLine? (s.parser.line + 1) text with
  | none =>
      rw [feedLine_ignored device hline s hresting]
      generalize s.parser.block = block
      cases block <;> rfl
  | some st =>
      by_cases hreading : ∀ b, st.reading s.parser.block ≠ .ended b
      · exact countsOne_feedLine_of_taken device hs.sound hresting hline hreading
      · obtain ⟨b, hended⟩ := not_forall_not.1 hreading
        have hblock := Statement.eq_of_reading_ended hended
        rw [hblock] at hresting hended
        exact countsOne_feedLine_of_ended device (hs.sound b hblock) hresting hline hended

theorem countsOne_feedBytes (line : Bytes) {s : Session σ} (hs : s.parser.Coupled) :
    CountsOne s.parser.line (feedBytes device line s) := by
  unfold feedBytes
  cases Utf8.decode? line with
  | none => trivial
  | some text => exact countsOne_feedLine device text hs

/-! ## All lines -/

/-- Lines that are taken are counted. -/
theorem line_of_feedAll {lines : List Bytes} {s s' : Session σ} (hs : s.parser.Coupled)
    (h : feedAll device lines s = .ok () s') :
    s'.parser.line = s.parser.line + lines.length ∧ s'.parser.Coupled := by
  induction lines generalizing s with
  | nil =>
      cases h
      exact ⟨rfl, hs⟩
  | cons line rest ih =>
      have hcount := countsOne_feedBytes device line hs
      have hcoupled := keeps_feedBytes device line s hs
      rw [feedAll, run_bind] at h
      cases hfeed : feedBytes device line s with
      | error failure after =>
          rw [hfeed] at h
          cases h
      | ok u after =>
          rw [hfeed] at h hcount hcoupled
          obtain ⟨hline, hrest⟩ := ih hcoupled h
          refine ⟨?_, hrest⟩
          rw [hline, hcount, List.length_cons]
          omega

/-- At the end of a script there is no line left that could have a fault. -/
theorem stream_of_finish_error {s s' : Session σ} (hs : s.parser.Coupled) {failure : Failure}
    (h : finish device s = .error failure s') : ∃ fault, failure = .stream fault := by
  obtain ⟨start, hresting⟩ := hs.eq_resting
  rw [finish_eq device hs.sound s hresting] at h
  generalize s.parser.block = block at h
  cases block with
  | none => cases h
  | some b =>
      simp only [Option.map_some, writeTaken] at h
      split at h
      · next hwrite =>
          cases h
          exact stream_of_writeRecord_error device hwrite
      · cases h

/-- A line at which a fault of the script is found is a text. -/
theorem exists_text_of_feedBytes {line : Bytes} {s s' : Session σ} {error : ScriptError}
    (h : feedBytes device line s = .error (.script error) s') : ∃ text, line = Utf8.encode text := by
  unfold feedBytes at h
  cases hbytes : Utf8.decode? line with
  | none =>
      rw [hbytes] at h
      cases h
  | some text => exact ⟨text, (Utf8.encode_of_decode? hbytes).symm⟩

end Session

end Patchbay
