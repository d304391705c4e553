import Patchbay.Proofs.Compiler.Calls
import Patchbay.Proofs.Compiler.Delivery

/-!
# Runs on devices that fail

A device may take records in small pieces, run out of room in the middle of one, or refuse to flush.
A run offers it the records of its course one after the other, each of them until it is complete and
flushed, so there are two ways for a run to go (`follow_cases`).  Either the device takes every
record, and then the run cannot be told from one on an unlimited device (`Completes`).  Or it breaks
down at one record: the records before it have been flushed one by one, this one has been announced,
and the call that the device refused is the last that it gets (`BreaksDown`).

Which way a run goes is seen from the calls and their answers alone: the run completes if no call is
refused, and a refused call is where it breaks down.  The main statement, `runOver_cut_cleanly`,
says so of every device.
-/

namespace Patchbay

/-! ## One record -/

/-- A write that ends with `fault`, after which the device is in the state `next`. -/
def Device.Refuses {σ : Type} (device : Device σ) (bytes : Bytes) (fault : StreamError)
    (next : σ) : Prop :=
  ∃ state, device.write bytes state = (.error fault, next) ∨
    device.write bytes state = (.ok 0, next) ∧ fault = .nothingWritten

/-- The device has broken down at the record with the given bytes, and the sink is as the refused
call has left it. -/
inductive Sink.Broken {σ : Type} (device : Device σ) (bytes : Bytes) (fault : StreamError)
    (sink : Sink σ) : Prop
  /-- The device has refused `rest`, which was left of the record. -/
  | writing (rest : Bytes) (split : bytes = sink.pending ++ rest) (nonempty : rest ≠ [])
      (refused : device.Refuses rest fault sink.device)
  /-- The device has taken the whole record and has refused to flush it. -/
  | flushing (state : σ) (whole : bytes = sink.pending)
      (refused : device.flush state = (.error fault, sink.device))

section

variable {σ : Type} {device : Device σ}

theorem Device.NeverFails.recording (h : device.NeverFails) : device.recording.NeverFails where
  write bytes state hbytes := by
    obtain ⟨count, next, hwrite⟩ := h.write bytes state.1 hbytes
    exact ⟨count, (next, state.2 ++ [.write bytes (.ok (count + 1))]), by
      simp only [Device.recording, hwrite]⟩
  flush state := by
    obtain ⟨next, hflush⟩ := h.flush state.1
    exact ⟨(next, state.2 ++ [.flush (.ok ())]), by simp only [Device.recording, hflush]⟩

theorem Device.NeverFails.not_broken (hdevice : device.NeverFails) {bytes : Bytes}
    {fault : StreamError} {sink : Sink σ} : ¬ sink.Broken device bytes fault := by
  intro hbroken
  cases hbroken with
  | writing rest split nonempty refused =>
      obtain ⟨state, hrefused⟩ := refused
      obtain ⟨count, next, hwrite⟩ := hdevice.write rest state nonempty
      rw [hwrite] at hrefused
      simp at hrefused
  | flushing state whole refused =>
      obtain ⟨next, hflush⟩ := hdevice.flush state
      rw [hflush] at refused
      simp at refused

end

namespace Session

open Script

variable {σ : Type} (device : Device σ)

/-- All bytes are written, or the device refuses some of them and takes those before. -/
theorem writeAll_cases (bytes : Bytes) (sink : Sink σ) :
    (∃ state, Sink.writeAll device bytes sink =
        (.ok (), { sink with device := state, pending := sink.pending ++ bytes })) ∨
      ∃ fault left rest, Sink.writeAll device bytes sink = (.error fault, left) ∧
        left.flushed = sink.flushed ∧ sink.pending ++ bytes = left.pending ++ rest ∧ rest ≠ [] ∧
          device.Refuses rest fault left.device := by
  fun_induction Sink.writeAll device bytes sink with
  | case1 sink =>
      left
      exact ⟨sink.device, by rw [List.append_nil]⟩
  | case2 bytes sink hbytes fault state hwrite =>
      right
      exact ⟨fault, _, bytes, rfl, rfl, rfl, hbytes, sink.device, .inl hwrite⟩
  | case3 bytes sink hbytes state hwrite =>
      right
      exact ⟨.nothingWritten, _, bytes, rfl, rfl, rfl, hbytes, sink.device, .inr ⟨hwrite, rfl⟩⟩
  | case4 bytes sink hbytes count state hwrite ih =>
      have hsplit : sink.pending ++ bytes.take (count + 1) ++ bytes.drop (count + 1) =
          sink.pending ++ bytes := by
        rw [List.append_assoc, List.take_append_drop]
      rw [hsplit] at ih
      exact ih

/-- A record is taken and flushed, or the device breaks down at it. -/
theorem deliver_cases (bytes : Bytes) {sink : Sink σ} (hpending : sink.pending = []) :
    (∃ state, deliver device bytes sink = (.ok (), ⟨state, sink.flushed ++ [bytes], []⟩)) ∨
      ∃ fault left, deliver device bytes sink = (.error fault, left) ∧
        left.flushed = sink.flushed ∧ left.Broken device bytes fault := by
  rcases writeAll_cases device bytes sink with ⟨state, hwrite⟩ | hcut
  · rw [hpending, List.nil_append] at hwrite
    rw [deliver, hwrite]
    simp only [Sink.flush]
    cases hflush : device.flush state with
    | mk answer next =>
        cases answer with
        | ok u =>
            left
            exact ⟨next, rfl⟩
        | error fault =>
            right
            exact ⟨fault, _, rfl, rfl, .flushing state rfl hflush⟩
  · obtain ⟨fault, left, rest, hwrite, hflushed, hsplit, hrest, hrefused⟩ := hcut
    rw [hpending, List.nil_append] at hsplit
    right
    refine ⟨fault, left, ?_, hflushed, .writing rest hsplit hrest hrefused⟩
    rw [deliver, hwrite]

/-! ## Stages -/

/-- What is reported about a record when it is about to be written. -/
def announcement (record : Record) : List Event :=
  [.message (recordMessage record),
    .log (.recordWritten record.line record.bytes.length record.description)]

/-- What is reported about a stage. -/
def Stage.report (stage : Stage) : List Event :=
  stage.events ++ stage.record?.toList.flatMap announcement

/-- The session behind stages whose records have all been taken and flushed. -/
def passed (s : Session σ) (stages : List Stage) (state : σ) : Session σ where
  parser := finalParser s.parser stages
  sink := ⟨state, s.sink.flushed ++ (recordsOfStages stages).map Record.bytes, []⟩
  instructions := s.instructions + (recordsOfStages stages).length
  journal := s.journal ++ stages.flatMap Stage.report

/-- A stage that reports progress about its record only, which is that of an instruction. -/
structure Stage.Regular (stage : Stage) : Prop where
  quiet : Event.messages stage.events = []
  instruction : ∀ record ∈ stage.record?,
    ∃ i : Instruction, record.bytes = i.wire ∧ record.description = i.description

/-- The device has broken down at record `j` of the stages (counted from 0), and the run has stopped
there. -/
def StoppedAt (stages : List Stage) (s : Session σ) (j : Nat) : Prop :=
  ∃ record fault left, (recordsOfStages stages)[j]? = some record ∧
    follow device stages s = .error (.stream fault) left ∧
      left.sink.flushed =
          s.sink.flushed ++ ((recordsOfStages stages).take j).map Record.bytes ∧
        left.sink.Broken device record.bytes fault ∧
          Event.messages left.journal = Event.messages s.journal ++
            ((recordsOfStages stages).take (j + 1)).map recordMessage

theorem messages_append (journal later : List Event) :
    Event.messages (journal ++ later) = Event.messages journal ++ Event.messages later :=
  List.filterMap_append

theorem Stage.Regular.messages_report {stage : Stage} (h : stage.Regular) :
    Event.messages stage.report = stage.record?.toList.map recordMessage := by
  rw [Stage.report, messages_append, h.quiet]
  cases stage.record? <;> rfl

/-- One stage: its record is written, if it has one, or the device breaks down at this record. -/
theorem writeTaken_cases (stage : Stage) {s : Session σ} (hpending : s.sink.pending = []) :
    (∃ state, writeTaken device stage.record? (s.noted stage.parser stage.events) =
        .ok () (s.passed [stage] state)) ∨
      ∃ record fault left, stage.record? = some record ∧
        writeTaken device stage.record? (s.noted stage.parser stage.events) =
            .error (.stream fault) left ∧
          left.sink.flushed = s.sink.flushed ∧ left.sink.Broken device record.bytes fault ∧
            left.journal = s.journal ++ stage.report := by
  cases hrecord : stage.record? with
  | none =>
      left
      refine ⟨s.sink.device, ?_⟩
      have hpassed : s.passed [stage] s.sink.device = s.noted stage.parser stage.events := by
        obtain ⟨parser, ⟨state, flushed, pending⟩, instructions, journal⟩ := s
        cases hpending
        simp [passed, noted, finalParser, recordsOfStages, Stage.report, hrecord]
      rw [hpassed]
      rfl
  | some record =>
      have hreport : s.journal ++ stage.events ++ announcement record =
          s.journal ++ stage.report := by
        simp [Stage.report, hrecord]
      have hsink : ((s.noted stage.parser stage.events).announced record).sink = s.sink := rfl
      rw [writeTaken, writeRecord_eq, sinkDo, hsink]
      -- the record is counted and announced before it is written, so either way
      rcases deliver_cases device record.bytes hpending with
        ⟨state, hdeliver⟩ | ⟨fault, left, hdeliver, hflushed, hbroken⟩
      · left
        refine ⟨state, ?_⟩
        rw [hdeliver]
        simp only [passed, noted, announced, finalParser, recordsOfStages, hrecord,
          List.flatMap_singleton, Option.toList, List.map_singleton, List.length_singleton]
        rw [← hreport]
        rfl
      · right
        refine ⟨record, fault, { (s.noted stage.parser stage.events).announced record with
          sink := left }, rfl, ?_, hflushed, hbroken, hreport⟩
        rw [hdeliver]

theorem passed_passed (s : Session σ) (stage : Stage) (rest : List Stage) (state next : σ) :
    (s.passed [stage] state).passed rest next = s.passed (stage :: rest) next := by
  simp [passed, finalParser, recordsOfStages, Nat.add_assoc]

/-- A breakdown behind a stage is one behind the record of this stage, if there is one. -/
theorem StoppedAt.cons {stage : Stage} {rest : List Stage} (hstage : stage.Regular)
    {s : Session σ} {state : σ} {j : Nat}
    (hwrite : writeTaken device stage.record? (s.noted stage.parser stage.events) =
      .ok () (s.passed [stage] state))
    (h : StoppedAt device rest (s.passed [stage] state) j) :
    StoppedAt device (stage :: rest) s (stage.record?.toList.length + j) := by
  obtain ⟨record, fault, left, hrecord, hfollow, hflushed, hbroken, hmessages⟩ := h
  refine ⟨record, fault, left, ?_, ?_, ?_, hbroken, ?_⟩
  · rw [recordsOfStages_cons, List.getElem?_append_right (Nat.le_add_right _ _),
      Nat.add_sub_cancel_left, hrecord]
  · rw [follow_cons, run_bind_of_ok hwrite, hfollow]
  · rw [hflushed, recordsOfStages_cons, List.take_length_add_append]
    simp [passed, recordsOfStages]
  · rw [hmessages, recordsOfStages_cons, Nat.add_assoc, List.take_length_add_append]
    simp only [passed, List.flatMap_singleton, messages_append, hstage.messages_report,
      List.map_append, List.append_assoc]

/-- Stages are followed to their end, or up to a record at which the device breaks down. -/
theorem follow_cases {stages : List Stage} (hstages : ∀ stage ∈ stages, stage.Regular)
    {s : Session σ} (hpending : s.sink.pending = []) :
    (∃ state, follow device stages s = .ok () (s.passed stages state)) ∨
      ∃ j, StoppedAt device stages s j := by
  induction stages generalizing s with
  | nil =>
      left
      refine ⟨s.sink.device, ?_⟩
      have hpassed : s.passed [] s.sink.device = s := by
        obtain ⟨parser, ⟨state, flushed, pending⟩, instructions, journal⟩ := s
        cases hpending
        simp [passed, finalParser, recordsOfStages]
      rw [hpassed]
      rfl
  | cons stage rest ih =>
      obtain ⟨hstage, hrest⟩ := List.forall_mem_cons.1 hstages
      rcases writeTaken_cases device stage hpending with
        ⟨state, hwrite⟩ | ⟨record, fault, left, hrecord, hwrite, hflushed, hbroken, hjournal⟩
      · -- behind a record that has been flushed nothing is pending, as in front of it
        rcases ih hrest (s := s.passed [stage] state) rfl with ⟨next, hfollow⟩ | ⟨j, hstopped⟩
        · left
          refine ⟨next, ?_⟩
          rw [follow_cons, run_bind_of_ok hwrite, hfollow, passed_passed]
        · right
          exact ⟨_, hstopped.cons device hstage hwrite⟩
      · right
        refine ⟨0, record, fault, left, ?_, ?_, ?_, hbroken, ?_⟩
        · rw [recordsOfStages_cons, hrecord]
          rfl
        · rw [follow_cons, run_bind, hwrite]
        · rw [hflushed, List.take_zero, List.map_nil, List.append_nil]
        · rw [hjournal, messages_append, recordsOfStages_cons, Stage.report, messages_append,
            hstage.quiet, hrecord]
          rfl

/-! ## Courses -/

theorem Stage.regular_ofReading (line start : Nat) (reading : Reading) :
    (Stage.ofReading line start reading).Regular := by
  cases reading with
  | faulty fault => exact ⟨rfl, by simp [ofReading, Reading.record?]⟩
  | complete instruction =>
      refine ⟨rfl, ?_⟩
      rintro record ⟨⟩
      exact ⟨instruction, rfl, rfl⟩
  | opened b => exact ⟨rfl, by simp [ofReading, Reading.record?]⟩
  | extended b => exact ⟨rfl, by simp [ofReading, Reading.record?]⟩
  | ended b =>
      refine ⟨rfl, ?_⟩
      rintro record ⟨⟩
      exact ⟨b.instruction, rfl, rfl⟩

theorem regular_course (n start : Nat) (block : Option Block) (lines : List Bytes) :
    ∀ stage ∈ (course n start block lines).stages, stage.Regular := by
  refine forall_stages ?_ Stage.regular_ofReading ?_ n start block lines
  · intro line start block
    exact ⟨rfl, by simp [Stage.silent]⟩
  · intro line start block
    refine ⟨by cases block <;> rfl, ?_⟩
    intro record hrecord
    obtain ⟨b, -, rfl⟩ := Option.map_eq_some_iff.1 hrecord
    exact ⟨b.instruction, rfl, rfl⟩

/-- The records of a script, in the order in which they are written.  Where the script has a fault,
these are the records before it. -/
def recordsIn (script : Bytes) : List Record :=
  recordsOfStages (course 0 0 none (Source.lines script)).stages

/-- A run that goes on the device as it goes on an unlimited one. -/
structure Completes (state : σ) (script : Bytes) : Prop where
  ending_eq : ending (runOver device script) (.new state) =
    ending (runOver Device.unlimited script) (.new ())
  flushed_eq : (left (runOver device script) (.new state)).sink.flushed =
    (left (runOver Device.unlimited script) (.new ())).sink.flushed
  pending_eq : (left (runOver device script) (.new state)).sink.pending = []
  journal_eq : (left (runOver device script) (.new state)).journal =
    (left (runOver Device.unlimited script) (.new ())).journal
  granted : ∀ call ∈ callsIn device state script, call.refusal? = none
  /-- Each record has been taken, and flushed once behind its last byte. -/
  account_eq : account (callsIn device state script) = ⟨(recordsIn script).map Record.bytes, []⟩

/-- A run that the device stops at the given record, which is record `j` of the script (counted
from 0). -/
structure BreaksDown (state : σ) (script : Bytes) (j : Nat) (record : Record) : Prop where
  getElem?_eq : (recordsIn script)[j]? = some record
  /-- The records before have been flushed, one by one. -/
  flushed_eq : (left (runOver device script) (.new state)).sink.flushed =
    ((recordsIn script).take j).map Record.bytes
  /-- These records and the refused one have been announced, and nothing else. -/
  messages_eq : Event.messages (left (runOver device script) (.new state)).journal =
    "Translating input..." :: ((recordsIn script).take (j + 1)).map recordMessage
  /-- The device has taken `front` of the record, has refused the call that was due then, and has
  got no other call.  The run fails with its fault. -/
  refused_last : ∃ before call fault front rest,
    callsIn device state script = before ++ [call] ∧
      (∀ earlier ∈ before, earlier.refusal? = none) ∧ call.refusal? = some fault ∧
        account before = ⟨((recordsIn script).take j).map Record.bytes, front⟩ ∧
          record.bytes = front ++ rest ∧ call.IsDue rest ∧
            ending (runOver device script) (.new state) = .error (.stream fault)

/-- The end of a run does not depend on the device, and writes nothing. -/
theorem conclude_eq {τ : Type} (failure? : Option Failure) {s : Session σ} {t : Session τ}
    (hparser : s.parser = t.parser) (hcount : s.instructions = t.instructions)
    (hjournal : s.journal = t.journal) :
    ending (conclude failure?) s = ending (conclude failure?) t ∧
      (left (conclude failure?) s).journal = (left (conclude failure?) t).journal ∧
        (left (conclude failure?) s).sink = s.sink := by
  cases failure? with
  | some failure => exact ⟨rfl, hjournal, rfl⟩
  | none => simp [ending, left, conclude, tally, concluded, hparser, hcount, hjournal]

/-- A run whose stages have been followed to their end only has to conclude. -/
theorem runOver_of_follow {device : Device σ} {state : σ} {script : Bytes} {s : Session σ}
    (h : follow device (course 0 0 none (Source.lines script)).stages
      (Session.new state).started = .ok () s) :
    runOver device script (.new state) =
      conclude (course 0 0 none (Source.lines script)).failure? s := by
  rw [runOver_new_eq, Course.run, run_bind_of_ok h]

/-- A run that is stopped at a stage ends there. -/
theorem runOver_of_follow_error {device : Device σ} {state : σ} {script : Bytes}
    {failure : Failure} {s : Session σ}
    (h : follow device (course 0 0 none (Source.lines script)).stages
      (Session.new state).started = .error failure s) :
    runOver device script (.new state) = .error failure s := by
  rw [runOver_new_eq, Course.run, run_bind, h]

/-- A run on an unlimited device passes all its stages. -/
theorem runOver_unlimited (script : Bytes) :
    runOver Device.unlimited script (.new ()) =
      conclude (course 0 0 none (Source.lines script)).failure?
        ((Session.new ()).started.passed (course 0 0 none (Source.lines script)).stages ()) := by
  rcases follow_cases Device.unlimited (s := (Session.new ()).started)
    (regular_course 0 0 none (Source.lines script)) rfl with ⟨state, hfollow⟩ | ⟨j, hstopped⟩
  · exact runOver_of_follow hfollow
  · obtain ⟨record, fault, left, -, -, -, hbroken, -⟩ := hstopped
    exact absurd hbroken Device.neverFails_unlimited.not_broken

/-- Two parts of runs with the same result end in the same way and leave the same session. -/
theorem ending_left_congr {α : Type} {action action' : Action σ α} {s s' : Session σ}
    (h : action s = action' s') : ending action s = ending action' s' ∧
      left action s = left action' s' := by
  rw [ending, ending, left, left, h]
  exact ⟨rfl, rfl⟩

/-! ## Observed calls -/

theorem faithful_new (state : σ) : (Session.new (state, ([] : List Call))).started.sink.Faithful :=
  ⟨fun _ hmem => absurd hmem List.not_mem_nil, rfl⟩

/-- The recorded run leaves what the run leaves. -/
theorem left_runOver_eq (state : σ) (script : Bytes) :
    left (runOver device script) (.new state) =
      (left (runOver device.recording script) (.new (state, []))).map Prod.fst :=
  left_runOver_map (s := .new (state, [])) device.mirrors_recording script (.outside 0)

theorem ending_runOver_eq (state : σ) (script : Bytes) :
    ending (runOver device script) (.new state) =
      ending (runOver device.recording script) (.new (state, [])) :=
  ending_runOver_map (s := .new (state, [])) device.mirrors_recording script (.outside 0)

/-- The sink keeps the account of the calls. -/
theorem account_callsIn (state : σ) (script : Bytes) :
    account (callsIn device state script) =
      ⟨(left (runOver device script) (.new state)).sink.flushed,
        (left (runOver device script) (.new state)).sink.pending⟩ := by
  have hanswered := answered_follow device (course 0 0 none (Source.lines script)).stages
    (faithful_new state)
  rw [left_runOver_eq, callsIn]
  cases hfollow : follow device.recording (course 0 0 none (Source.lines script)).stages
      (Session.new (state, [])).started with
  | ok u next =>
      have hsink :
          (left (runOver device.recording script) (.new (state, []))).sink = next.sink := by
        rw [(ending_left_congr (runOver_of_follow hfollow)).2]
        exact (conclude_eq (course 0 0 none (Source.lines script)).failure? rfl rfl rfl).2.2
      rw [hfollow] at hanswered
      rw [map, Sink.map, hsink]
      exact hanswered.account_eq
  | error failure after =>
      have hleft : left (runOver device.recording script) (.new (state, [])) = after := by
        rw [left, runOver_of_follow_error hfollow]
      rw [hfollow] at hanswered
      rw [hleft]
      cases failure with
      | stream fault => exact hanswered.account_eq
      | script error => exact hanswered.elim
      | misuse => exact hanswered.elim

/-- The call at which the device has broken down was due for what is left of the record. -/
theorem due_of_broken {bytes : Bytes} {fault : StreamError} {sink : Sink (σ × List Call)}
    {before : List Call} {call : Call} (hcalls : sink.device.2 = before ++ [call])
    (h : sink.Broken device.recording bytes fault) :
    ∃ rest, bytes = sink.pending ++ rest ∧ call.IsDue rest := by
  cases h with
  | writing rest split nonempty refused =>
      obtain ⟨state, hwrite | ⟨hwrite, -⟩⟩ := refused
      all_goals
        obtain ⟨-, hcall⟩ := List.append_inj' (hcalls.symm.trans (calls_of_write hwrite)) rfl
        obtain rfl := List.singleton_inj.1 hcall
        exact ⟨rest, split, rfl, nonempty⟩
  | flushing state whole refused =>
      obtain ⟨-, hcall⟩ := List.append_inj' (hcalls.symm.trans (calls_of_flush refused)) rfl
      obtain rfl := List.singleton_inj.1 hcall
      exact ⟨[], by rw [whole, List.append_nil], rfl⟩

/-! ## The two ways -/

theorem completes_of_passed {state : σ} {next : σ × List Call} {script : Bytes}
    (hfollow : follow device.recording (course 0 0 none (Source.lines script)).stages
        (Session.new (state, [])).started =
      .ok () ((Session.new (state, [])).started.passed
        (course 0 0 none (Source.lines script)).stages next)) :
    Completes device state script := by
  obtain ⟨hending, hleft⟩ := ending_left_congr (runOver_of_follow hfollow)
  obtain ⟨hending', hleft'⟩ := ending_left_congr (runOver_unlimited script)
  -- the two sessions in front of the end differ in their devices only
  obtain ⟨hconclude, hjournal, hsink⟩ := conclude_eq
    (s := (Session.new (state, ([] : List Call))).started.passed
      (course 0 0 none (Source.lines script)).stages next)
    (t := (Session.new ()).started.passed (course 0 0 none (Source.lines script)).stages ())
    (course 0 0 none (Source.lines script)).failure? rfl rfl rfl
  obtain ⟨-, -, hsink'⟩ := conclude_eq
    (s := (Session.new ()).started.passed (course 0 0 none (Source.lines script)).stages ())
    (course 0 0 none (Source.lines script)).failure? rfl rfl rfl
  have hfaithful := answered_follow device (course 0 0 none (Source.lines script)).stages
    (faithful_new state)
  rw [hfollow] at hfaithful
  have hcalls : callsIn device state script = next.2 := by
    rw [callsIn, hleft, hsink]
    rfl
  refine ⟨?_, ?_, ?_, ?_, ?_, ?_⟩
  · rw [ending_runOver_eq, hending, hending', hconclude]
  · rw [left_runOver_eq, map, Sink.map, hleft, hleft', hsink, hsink']
    rfl
  · rw [left_runOver_eq, map, Sink.map, hleft, hsink]
    rfl
  · rw [left_runOver_eq, map, hleft, hleft', hjournal]
  · rw [hcalls]
    exact hfaithful.granted
  · rw [hcalls]
    exact hfaithful.account_eq

theorem breaksDown_of_stopped {state : σ} {script : Bytes} {j : Nat}
    (h : StoppedAt device.recording (course 0 0 none (Source.lines script)).stages
      (Session.new (state, [])).started j) :
    ∃ record, BreaksDown device state script j record := by
  obtain ⟨record, fault, after, hrecord, hfollow, hflushed, hbroken, hmessages⟩ := h
  have hrun := runOver_of_follow_error hfollow
  have hleft : left (runOver device.recording script) (.new (state, [])) = after := by
    rw [left, hrun]
  have hflushed' : after.sink.flushed = ((recordsIn script).take j).map Record.bytes := hflushed
  -- what the sink says about the refused call, and what the list of calls says about it
  have hrefused := answered_follow device (course 0 0 none (Source.lines script)).stages
    (faithful_new state)
  rw [hfollow] at hrefused
  obtain ⟨before, call, hcalls, hrefusal, hgranted, haccount⟩ := hrefused
  obtain ⟨rest, hsplit, hdue⟩ := due_of_broken device hcalls hbroken
  refine ⟨record, hrecord, ?_, ?_, before, call, fault, after.sink.pending, rest, ?_, hgranted,
    hrefusal, ?_, hsplit, hdue, ?_⟩
  · rw [left_runOver_eq, hleft]
    exact hflushed'
  · rw [left_runOver_eq, hleft]
    exact hmessages
  · rw [callsIn, hleft, hcalls]
  · rw [haccount, hflushed']
  · rw [ending_runOver_eq, ending, hrun]

theorem completes_or_breaksDown (state : σ) (script : Bytes) :
    Completes device state script ∨ ∃ j record, BreaksDown device state script j record := by
  rcases follow_cases device.recording (s := (Session.new (state, [])).started)
    (regular_course 0 0 none (Source.lines script)) rfl with ⟨next, hfollow⟩ | ⟨j, hstopped⟩
  · exact .inl (completes_of_passed device hfollow)
  · exact .inr ⟨j, breaksDown_of_stopped device hstopped⟩

theorem completes_of_neverFails {device : Device σ} (hdevice : device.NeverFails) (state : σ)
    (script : Bytes) : Completes device state script := by
  rcases follow_cases device.recording (s := (Session.new (state, [])).started)
    (regular_course 0 0 none (Source.lines script)) rfl with ⟨next, hfollow⟩ | ⟨j, hstopped⟩
  · exact completes_of_passed device hfollow
  · obtain ⟨record, fault, left, -, -, -, hbroken, -⟩ := hstopped
    exact absurd hbroken hdevice.recording.not_broken

/-- What has been taken of the records when a run breaks down is a beginning of them. -/
theorem BreaksDown.taken_prefix {state : σ} {script : Bytes} {j : Nat} {record : Record}
    (h : BreaksDown device state script j record) :
    (account (callsIn device state script)).taken <+:
        ((recordsIn script).map Record.bytes).flatten ∧
      (account (callsIn device state script)).pieces <+: (recordsIn script).map Record.bytes := by
  obtain ⟨before, call, fault, front, rest, hcalls, -, hrefusal, haccount, hsplit, -, -⟩ :=
    h.refused_last
  obtain ⟨hlt, hget⟩ := List.getElem?_eq_some_iff.1 h.getElem?_eq
  have hrecords : recordsIn script =
      (recordsIn script).take j ++ record :: (recordsIn script).drop (j + 1) := by
    rw [← hget, ← List.drop_eq_getElem_cons hlt, List.take_append_drop]
  rw [hcalls, account_concat, Account.enter_of_refused _ (by simp [hrefusal]), haccount,
    Account.taken]
  refine ⟨?_, (List.take_prefix j _).map _⟩
  conv_rhs => rw [hrecords]
  rw [List.map_append, List.flatten_append, List.map_cons, List.flatten_cons, hsplit,
    List.append_assoc]
  exact (List.prefix_append_right_inj _).2 (List.prefix_append _ _)

theorem BreaksDown.refusedAt {state : σ} {script : Bytes} {j : Nat} {record : Record}
    (h : BreaksDown device state script j record) :
    RefusedAt (callsIn device state script) j := by
  obtain ⟨before, call, fault, front, rest, hcalls, -, hrefusal, haccount, -⟩ := h.refused_last
  obtain ⟨hlt, -⟩ := List.getElem?_eq_some_iff.1 h.getElem?_eq
  refine ⟨before, call, [], hcalls, by simp [hrefusal], ?_⟩
  rw [haccount, List.length_map, List.length_take, Nat.min_eq_left hlt.le]

/-- A device that fails cuts the output of a run cleanly.  An unlimited device is flushed behind
each record.  What any other device has taken, at every moment, is a beginning of the same output,
and the pieces that it has flushed are the first records.  The run goes as on an unlimited device if
no call is refused, and a call that is refused when `j` records have been flushed breaks it down at
record `j`. -/
theorem runOver_cut_cleanly (state : σ) (script : Bytes) :
    (account (callsIn Device.unlimited () script) = ⟨(recordsIn script).map Record.bytes, []⟩ ∧
        ∀ record ∈ recordsIn script,
          ∃ i : Instruction, record.bytes = i.wire ∧ record.description = i.description) ∧
      account (callsIn device state script) =
          ⟨(left (runOver device script) (.new state)).sink.flushed,
            (left (runOver device script) (.new state)).sink.pending⟩ ∧
        (∀ front, front <+: callsIn device state script →
          (account front).taken <+: (account (callsIn Device.unlimited () script)).taken ∧
            (account front).pieces <+: (recordsIn script).map Record.bytes) ∧
          (Completes device state script ↔
            ∀ call ∈ callsIn device state script, call.refusal? = none) ∧
            ∀ j, (∃ record, BreaksDown device state script j record) ↔
              RefusedAt (callsIn device state script) j := by
  have hunlimited := (completes_of_neverFails Device.neverFails_unlimited () script).account_eq
  have hinstruction : ∀ record ∈ recordsIn script,
      ∃ i : Instruction, record.bytes = i.wire ∧ record.description = i.description := by
    intro record hrecord
    obtain ⟨stage, hstage, hmem⟩ := List.mem_flatMap.1 hrecord
    exact (regular_course 0 0 none (Source.lines script) stage hstage).instruction record
      (Option.mem_toList.1 hmem)
  have hcases := completes_or_breaksDown device state script
  refine ⟨⟨hunlimited, hinstruction⟩, account_callsIn device state script, ?_,
    ⟨Completes.granted, ?_⟩, fun j => ⟨?_, ?_⟩⟩
  · intro front hfront
    have hkept := account_prefix hfront
    rw [hunlimited]
    rcases hcases with hcompletes | ⟨j, record, hbreaks⟩
    · rw [hcompletes.account_eq] at hkept
      exact hkept
    · obtain ⟨htaken, hpieces⟩ := hbreaks.taken_prefix
      exact ⟨hkept.1.trans (htaken.trans (List.prefix_append _ _)), hkept.2.trans hpieces⟩
  · intro hgranted
    rcases hcases with hcompletes | ⟨j, record, hbreaks⟩
    · exact hcompletes
    · obtain ⟨front, call, after, hcalls, hrefused, -⟩ := hbreaks.refusedAt
      exact absurd (hgranted call (by simp [hcalls])) hrefused
  · rintro ⟨record, hbreaks⟩
    exact hbreaks.refusedAt
  · intro hrefused
    rcases hcases with hcompletes | ⟨i, record, hbreaks⟩
    · exact absurd hrefused (not_refusedAt hcompletes.granted)
    · -- the run ends at its first refused call, so this one is the same
      obtain ⟨before, call, fault, front, rest, hcalls, hgranted, -⟩ := hbreaks.refused_last
      have hi := hbreaks.refusedAt
      rw [hcalls] at hi hrefused
      have hij : i = j := (hi.eq_of_last hgranted).symm.trans (hrefused.eq_of_last hgranted)
      exact ⟨record, hij ▸ hbreaks⟩

end Session

end Patchbay
