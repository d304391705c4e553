import Patchbay.Compiler.Compilation
import Patchbay.Proofs.Compiler.Counting
import Patchbay.Proofs.Source.Reading

/-!
# Compiling through a buffer

A compilation takes its lines from a reader, whose buffer cuts the script wherever it is full, while
a run over the bytes of a script has all lines at hand.  The two are the same run
(`feedLines_cases`), because the reader hands out the raw lines of the script.

At a fault there is more to compare.  The number of the failing line is counted by the parser, which
is offered some lines twice, and the text of the line is remembered by the reader, byte by byte.
Every line is counted once, so when line `n` fails the reader has read `n` lines and remembers the
last of them (`run_new_eq`).
-/

namespace Patchbay

namespace Compilation

open Session Source

variable {σ : Type} (device : Device σ)

/-- The result of a run of the session, beside the reader. -/
def beside {α : Type} (reader : Reader) :
    EStateM.Result Failure (Session σ) α → EStateM.Result Failure (Compilation σ) α
  | .ok a session => .ok a ⟨session, reader⟩
  | .error failure session => .error failure ⟨session, reader⟩

theorem feedLines_at_end {c : Compilation σ} {reader : Reader}
    (hread : c.reader.readLine = .ok ([], reader)) :
    feedLines device c = .ok () { c with reader } := by
  rw [feedLines]
  split
  · next heq => rw [hread] at heq; cases heq
  · next heq =>
      rw [hread] at heq
      cases heq
      exact dif_pos rfl

theorem feedLines_of_readLine {c : Compilation σ} {raw : Bytes} {reader : Reader}
    (hread : c.reader.readLine = .ok (raw, reader)) (hraw : raw ≠ []) :
    feedLines device c =
      match feedBytes device (content raw) c.session with
      | .error failure session => .error failure ⟨session, reader⟩
      | .ok () session => feedLines device ⟨session, reader⟩ := by
  rw [feedLines]
  split
  · next heq => rw [hread] at heq; cases heq
  · next heq =>
      rw [hread] at heq
      cases heq
      exact dif_neg hraw

/-- The lines of the reader fail at the raw line `raw`, behind the lines `before`, and the reader is
left with this line in its memory. -/
structure FailsAt (c : Compilation σ) (before : List Bytes) (raw : Bytes) (failure : Failure)
    (after : Compilation σ) : Prop where
  lines : ∃ rest, rawLines c.reader.unread = before ++ raw :: rest
  run : feedLines device c = .error failure after
  fed : ∃ t, feedAll device (before.map content) c.session = .ok () t ∧
    feedBytes device (content raw) t = .error failure after.session
  shown : Reader.shown after.reader.memory = withoutFeed raw

/-- All lines of the reader are taken, as from a list of lines, or one of them fails. -/
theorem feedLines_cases {c : Compilation σ} (hready : c.reader.Ready)
    (hbetween : c.reader.BetweenLines) :
    (∃ s reader, feedAll device (lines c.reader.unread) c.session = .ok () s ∧
        feedLines device c = .ok () ⟨s, reader⟩) ∨
      ∃ before raw failure after, FailsAt device c before raw failure after := by
  induction hsize : c.reader.unread.length using Nat.strong_induction_on generalizing c with
  | _ size ih =>
      -- a line takes at least one byte out of the reader, which is why the bytes are counted
      rcases Reader.readLine_between hready hbetween with
        ⟨hend, reader, hread⟩ | ⟨raw, reader, hread, hne, hlines, hready', hbetween', hshown⟩
      · left
        refine ⟨c.session, reader, ?_, feedLines_at_end device hread⟩
        rw [hend]
        rfl
      · have hfeed := feedLines_of_readLine device hread hne
        cases hline : feedBytes device (content raw) c.session with
        | error failure s =>
            right
            rw [hline] at hfeed
            exact ⟨[], raw, failure, ⟨s, reader⟩, ⟨_, hlines⟩, hfeed, ⟨c.session, rfl, hline⟩,
              hshown⟩
        | ok u s =>
            rw [hline] at hfeed
            have hshorter : reader.unread.length < size := by
              have hpos := List.length_pos_iff.2 hne
              rw [← hsize, ← Reader.unread_of_readLine hread, List.length_append]
              omega
            have hcons : ∀ more, feedAll device (content raw :: more) c.session =
                feedAll device more s := by
              intro more
              rw [feedAll, run_bind_of_ok hline]
            rcases ih _ hshorter (c := ⟨s, reader⟩) hready' hbetween' rfl with
              ⟨s', reader', hall, hrun⟩ | ⟨before, raw', failure, after, hfails⟩
            · left
              refine ⟨s', reader', ?_, hfeed.trans hrun⟩
              rw [lines, hlines, List.map_cons, hcons]
              exact hall
            · right
              obtain ⟨⟨rest, hrest⟩, hrun, ⟨t, hbefore, hat⟩, hshown'⟩ := hfails
              refine ⟨raw :: before, raw', failure, after, ⟨rest, ?_⟩, hfeed.trans hrun,
                ⟨t, ?_, hat⟩, hshown'⟩
              · rw [hlines, hrest]
                rfl
              · rw [List.map_cons, hcons]
                exact hbefore

/-- Lines that are taken up to one that fails fail as a whole. -/
theorem feedAll_of_failsAt {c after : Compilation σ} {before : List Bytes} {raw : Bytes}
    {failure : Failure} (h : FailsAt device c before raw failure after) :
    feedAll device (lines c.reader.unread) c.session = .error failure after.session := by
  obtain ⟨rest, hlines⟩ := h.lines
  obtain ⟨t, hbefore, hat⟩ := h.fed
  rw [lines, hlines, List.map_append, List.map_cons, feedAll_append, run_bind_of_ok hbefore,
    feedAll, run_bind, hat]

/-- The line that a fault of the script is on is the line that the reader shows. -/
theorem lastLine_of_failsAt {c after : Compilation σ} {before : List Bytes} {raw : Bytes}
    {error : ScriptError} (h : FailsAt device c before raw (.script error) after)
    (hc : c.session.parser.Coupled) :
    error.line = c.session.parser.line + before.length + 1 ∧
      Utf8.encode after.reader.lastLine = withoutReturn (withoutFeed raw) := by
  obtain ⟨t, hbefore, hat⟩ := h.fed
  obtain ⟨hline, hcoupled⟩ := line_of_feedAll device hc hbefore
  have hcount := countsOne_feedBytes device (content raw) hcoupled
  rw [hat] at hcount
  refine ⟨?_, ?_⟩
  · rw [hcount.1, hline, List.length_map]
  · obtain ⟨text, htext⟩ := exists_text_of_feedBytes device hat
    obtain ⟨line, hencode⟩ := exists_text_of_content htext
    rw [Reader.lastLine_eq, h.shown, hencode, Utf8.decodeLossy_encode]

theorem run_eq_feedLines (state : σ) (reader : Reader) :
    run device (.new state reader) =
      (feedLines device >>= fun _ => sessionDo (finish device))
        ⟨(Session.new state).started, reader⟩ := rfl

theorem sessionDo_eq {α : Type} (action : Session.Action σ α) (c : Compilation σ) :
    sessionDo action c = beside c.reader (action c.session) := by
  unfold sessionDo
  cases action c.session <;> rfl

section

variable (state : σ) (path : Option String) {capacity : Nat} (hcapacity : 0 < capacity)
  (script : Bytes)

include hcapacity

/-- A compilation comes to the end of its script, or fails at a line of it. -/
theorem run_new_cases :
    (∃ s reader, feedAll device (lines script) (Session.new state).started = .ok () s ∧
        run device (.new state (.new path capacity script)) = beside reader (finish device s)) ∨
      ∃ before raw failure after,
        FailsAt device ⟨(Session.new state).started, .new path capacity script⟩ before raw failure
            after ∧
          run device (.new state (.new path capacity script)) = .error failure after := by
  rw [run_eq_feedLines, run_bind]
  rcases feedLines_cases device (c := ⟨(Session.new state).started, .new path capacity script⟩)
    ⟨hcapacity, rfl⟩ (.inl rfl) with ⟨s, reader, hall, hrun⟩ | ⟨before, raw, failure, after, hfails⟩
  · left
    refine ⟨s, reader, hall, ?_⟩
    rw [hrun]
    exact sessionDo_eq _ _
  · right
    refine ⟨before, raw, failure, after, hfails, ?_⟩
    rw [hfails.run]

/-- A compilation through a reader is a run over the bytes of its script. -/
theorem exists_run_new_eq_beside :
    ∃ reader, run device (.new state (.new path capacity script)) =
      beside reader (runOver device script (.new state)) := by
  have hover : runOver device script (.new state) =
      (feedAll device (lines script) >>= fun _ => finish device) (Session.new state).started := rfl
  rw [hover, run_bind]
  rcases run_new_cases device state path hcapacity script with
    ⟨s, reader, hfed, hrun⟩ | ⟨before, raw, failure, after, hfails, hrun⟩
  · rw [hfed]
    exact ⟨reader, hrun⟩
  · have hfed : feedAll device (lines script) (Session.new state).started =
        .error failure after.session := feedAll_of_failsAt device hfails
    rw [hfed]
    exact ⟨after.reader, hrun⟩

end

/-- A compilation through a reader is a run over the bytes of its script, whatever the capacity of
the buffer is.  When it fails at a line of the script, the reader shows this line, without its line
feed and without one carriage return. -/
theorem run_new_eq (state : σ) (path : Option String) {capacity : Nat} (hcapacity : 0 < capacity)
    (script : Bytes) :
    (∃ reader, run device (.new state (.new path capacity script)) =
        beside reader (runOver device script (.new state))) ∧
      ∀ error after,
        run device (.new state (.new path capacity script)) = .error (.script error) after →
          ∃ n raw, error.line = n + 1 ∧ (rawLines script)[n]? = some raw ∧
            Utf8.encode after.reader.lastLine = withoutReturn (withoutFeed raw) := by
  have hcoupled : (Session.new state).started.parser.Coupled := .outside 0
  refine ⟨exists_run_new_eq_beside device state path hcapacity script, ?_⟩
  intro error after hafter
  rcases run_new_cases device state path hcapacity script with
    ⟨s, reader, hfed, hrun⟩ | ⟨before, raw, failure, c, hfails, hrun⟩
  · -- the run has come to the end of the script, where nothing but the device can fail
    rw [hrun] at hafter
    cases hfinish : finish device s with
    | ok tally s' =>
        rw [hfinish] at hafter
        cases hafter
    | error failure s' =>
        rw [hfinish] at hafter
        obtain ⟨fault, rfl⟩ :=
          stream_of_finish_error device (line_of_feedAll device hcoupled hfed).2 hfinish
        cases hafter
  · rw [hrun] at hafter
    cases hafter
    obtain ⟨hline, hshown⟩ := lastLine_of_failsAt device hfails hcoupled
    obtain ⟨rest, hlines⟩ := hfails.lines
    have hscript : rawLines script = before ++ raw :: rest := hlines
    refine ⟨before.length, raw, ?_, ?_, hshown⟩
    · rw [hline]
      exact congrArg (· + 1) (Nat.zero_add before.length)
    · rw [hscript, List.getElem?_append_right (Nat.le_refl _), Nat.sub_self]
      rfl

/-- The last line has no line feed, ends with a carriage return and is cut by a buffer of two
bytes. -/
theorem run_new_eq_cut_line :
    let script := Utf8.encode "i a\r\nS v\n x\r".toList
    0 < 2 ∧ ∃ after,
      run Device.unlimited (.new () (.new none 2 script)) =
          .error (.script ⟨3, .noAssignment⟩) after ∧
        Utf8.encode after.reader.lastLine = [0x20, 0x78] := by
  intro script
  obtain ⟨⟨reader, hrun⟩, hshown⟩ :=
    run_new_eq Device.unlimited () none (show 0 < 2 by decide) script
  have hending : Session.ending (runOver Device.unlimited script) (.new ()) =
      .error (.script ⟨3, .noAssignment⟩) := by
    decide +kernel
  rw [eq_error_of_ending hending] at hrun
  obtain ⟨n, raw, hline, hraw, hlast⟩ := hshown _ _ hrun
  have hlines : rawLines script =
      [[0x69, 0x20, 0x61, 0x0D, 0x0A], [0x53, 0x20, 0x76, 0x0A], [0x20, 0x78, 0x0D]] := by
    decide +kernel
  cases hline
  rw [hlines] at hraw
  cases hraw
  exact ⟨by decide, _, hrun, hlast⟩

end Compilation

end Patchbay
