import Patchbay.Proofs.Compiler.Breakdown
import Patchbay.Proofs.Compiler.Meaning
import Patchbay.Proofs.Script.Layout

/-!
# The progress report of a run

A run reports each record before it writes it: the number of the line that the record comes from and
a description of what the record does.  Number, description and bytes are put together in different
places, and for a block long after its header has been read.  This file shows that they belong
together (`report_of_runOver`): the numbers are those of the lines on which the constructs of the
script begin, and the descriptions are those of the instructions that the bytes decode to.

The records of a course are found by going along it (`exists_tells`).  The record of a block keeps
the number that it was started with, so the number that is expected of the next record is `start`
inside a block, and otherwise that of the next construct.
-/

namespace Patchbay

open Script

/-! ## Descriptions -/

namespace Instruction

/-- The entry of an instruction in a progress report, written out for every kind of record. -/
def entry : Instruction → String
  | clearInstances => "I (clear all)"
  | addInstance id name => "I (instance ID " ++ inQuotes id ++ ", name " ++ inQuotes name ++ ")"
  | removeInstance name => "i (instance " ++ inQuotes name ++ " removed)"
  | setValues element _ => "S (set all values for element " ++ inQuotes element ++ ")"
  | updateValues element _ => "U (update some values for element " ++ inQuotes element ++ ")"
  | updateValue element value =>
      "u (update control " ++ inQuotes value.name ++ " for element " ++ inQuotes element ++ ")"
  | deleteValue element control =>
      "d (delete value " ++ inQuotes control ++ " for element " ++ inQuotes element ++ ")"
  | connect sink source =>
      "C (make audio connection from " ++ inQuotes sink ++ " to " ++ inQuotes source ++ ")"
  | disconnect origin destination =>
      "c (remove " ++
        (if origin = "" then
          if destination = "" then "all audio connections"
          else "audio connections to " ++ inQuotes destination
        else if destination = "" then "audio connections from " ++ inQuotes origin
        else "audio connections from " ++ inQuotes origin ++ " to " ++ inQuotes destination) ++ ")"

theorem removedConnections_eq (origin destination : String) :
    removedConnections origin destination =
      if origin = "" then
        if destination = "" then "all audio connections"
        else "audio connections to " ++ inQuotes destination
      else if destination = "" then "audio connections from " ++ inQuotes origin
      else "audio connections from " ++ inQuotes origin ++ " to " ++ inQuotes destination := by
  have hempty : ∀ s : String, s.isEmpty = decide (s = "") := by
    intro s
    rw [Bool.eq_iff_iff, String.isEmpty_iff, decide_eq_true_iff]
  unfold removedConnections
  by_cases horigin : origin = "" <;> by_cases hdestination : destination = "" <;>
    simp [hempty, horigin, hdestination]

theorem description_eq_entry (i : Instruction) : i.description = i.entry := by
  have hassoc : ∀ a b c : String, a ++ b ++ c = a ++ (b ++ c) := by
    intro a b c
    exact String.append_assoc
  cases i with
  | clearInstances => rfl
  | removeInstance name =>
      unfold entry description effect
      simp only [← hassoc]
      rw [hassoc _ " removed"]
      rfl
  | disconnect origin destination =>
      unfold entry description effect
      simp only [← hassoc, ← removedConnections_eq]
      rfl
  | _ =>
      unfold entry description effect
      simp only [← hassoc]
      rfl

end Instruction

namespace Script

/-! ## Where constructs begin -/

/-- The statement stands on the line with its number, counted from 1. -/
def Statement.StandsIn (texts : List (List Char)) (s : Statement) : Prop :=
  ∃ index line, s.line = index + 1 ∧ texts[index]? = some line ∧ Text.trimEnd line = s.text

theorem statements_cons_of_some {number : Nat} {text : List Char} {st : Statement}
    (h : Statement.ofLine? number text = some st) (texts : List (List Char)) :
    statements number (text :: texts) = st :: statements (number + 1) texts := by
  rw [statements, h]
  rfl

theorem head_mem_of_mem_constructs {list : List Statement} {c : Construct}
    (h : c ∈ constructs list) : c.head ∈ list := by
  induction list using constructs.induct with
  | case1 =>
      rw [constructs] at h
      cases h
  | case2 s rest hheader ih =>
      rw [constructs, if_pos hheader] at h
      rcases List.mem_cons.1 h with rfl | h
      · exact List.mem_cons_self
      · exact List.mem_cons_of_mem s ((List.dropWhile_sublist _).mem (ih h))
  | case3 s rest hheader ih =>
      rw [constructs, if_neg hheader] at h
      rcases List.mem_cons.1 h with rfl | h
      · exact List.mem_cons_self
      · exact List.mem_cons_of_mem s (ih h)

theorem standsIn_of_mem_constructs {texts : List (List Char)} {c : Construct}
    (h : c ∈ constructs (statements 1 texts)) : c.head.StandsIn texts := by
  obtain ⟨index, line, hnumber, hget, hline⟩ :=
    exists_line_of_mem_statements (head_mem_of_mem_constructs h)
  obtain ⟨-, htext, -⟩ := Statement.trimEnd_of_ofLine?_eq_some hline
  exact ⟨index, line, hnumber.trans (Nat.add_comm 1 index), hget, htext⟩

end Script

namespace Session

variable {σ : Type}

/-! ## The records of a course -/

/-- The numbers of the lines on which the constructs begin that are left; the open block has begun
on line `start`. -/
def headLines (start : Nat) : Option Block → List Statement → List Nat
  | none, rest => (constructs rest).map fun c => c.head.line
  | some _, rest =>
      start :: (constructs (rest.dropWhile Statement.isIndented)).map fun c => c.head.line

/-- The record of an instruction whose construct begins on the given line. -/
def recordOn (line : Nat) (i : Instruction) : Record :=
  ⟨line, i.description, i.wire⟩

section

variable {n start : Nat} {st : Statement} {rest : List Statement}

theorem headLines_of_complete {i : Instruction} (h : st.command = .ok (.complete i)) :
    headLines start none (st :: rest) = st.line :: headLines start none rest := by
  rw [headLines, constructs, if_neg (Bool.eq_false_iff.1 (Statement.isHeader_of_complete h))]
  rfl

theorem headLines_of_header {kind : BlockKind} {element : String}
    (h : st.command = .ok (.header kind element)) (b : Block) :
    headLines start none (st :: rest) = headLines st.line (some b) rest := by
  rw [headLines, constructs, if_pos (Statement.isHeader_of_header h)]
  rfl

theorem headLines_of_body (hspace : st.isIndented = true) (b longer : Block) :
    headLines start (some b) (st :: rest) = headLines start (some longer) rest := by
  simp only [headLines, List.dropWhile_cons_of_pos hspace]

theorem headLines_behind_body (hspace : st.isIndented = false) (b : Block) :
    headLines start (some b) (st :: rest) = start :: headLines start none (st :: rest) := by
  simp only [headLines, List.dropWhile_cons_of_neg (Bool.eq_false_iff.1 hspace)]

end

/-- What a course has made of lines with the given texts, when it has not failed: their
instructions, the records of these and the number of the lines. -/
structure Course.Tells (course : Course) (n start : Nat) (block : Option Block)
    (texts : List (List Char)) (instructions : List Instruction) : Prop where
  meaning : resume block (statements (n + 1) texts) = .ok instructions
  records : recordsOfStages course.stages =
    List.zipWith recordOn (headLines start block (statements (n + 1) texts)) instructions
  line : ∀ parser, (finalParser parser course.stages).line = n + texts.length

section

variable {n start : Nat} {text : List Char} {texts : List (List Char)} {st : Statement} {b : Block}
  {later : Course} {instructions : List Instruction}

theorem line_behind (stage : Stage) (text : List Char)
    (h : ∀ parser, (finalParser parser later.stages).line = n + 1 + texts.length)
    (parser : Parser) :
    (finalParser parser (later.behind stage).stages).line = n + (text :: texts).length := by
  rw [List.length_cons, Nat.add_comm texts.length, ← Nat.add_assoc]
  exact h stage.parser

theorem Course.Tells.silent {block : Option Block} (hline : Statement.ofLine? (n + 1) text = none)
    (h : later.Tells (n + 1) start block texts instructions) :
    (later.behind (.silent (n + 1) start block)).Tells n start block (text :: texts)
      instructions := by
  have hstatements : statements (n + 1) (text :: texts) = statements (n + 1 + 1) texts :=
    statements_cons_of_saysNothing (Statement.ofLine?_eq_none_iff.1 hline) _ _
  refine ⟨?_, ?_, line_behind _ text h.line⟩
  · rw [hstatements, h.meaning]
  · rw [hstatements, ← h.records]
    rfl

theorem Course.Tells.complete {i : Instruction} (hline : Statement.ofLine? (n + 1) text = some st)
    (hreading : st.reading none = .complete i)
    (h : later.Tells (n + 1) start none texts instructions) :
    (later.behind (.ofReading (n + 1) start (.complete i))).Tells n start none (text :: texts)
      (i :: instructions) := by
  obtain ⟨hnumber, -, -⟩ := Statement.trimEnd_of_ofLine?_eq_some hline
  cases Statement.reads_of_eq hreading with
  | command hcommand =>
      refine ⟨?_, ?_, line_behind _ text h.line⟩
      · rw [statements_cons_of_some hline, resume_of_complete hcommand, h.meaning]
        rfl
      · rw [statements_cons_of_some hline, headLines_of_complete hcommand, hnumber,
          List.zipWith_cons_cons, ← h.records]
        rfl

theorem Course.Tells.opened (hline : Statement.ofLine? (n + 1) text = some st)
    (hreading : st.reading none = .opened b)
    (h : later.Tells (n + 1) (n + 1) (some b) texts instructions) :
    (later.behind (.ofReading (n + 1) start (.opened b))).Tells n start none (text :: texts)
      instructions := by
  obtain ⟨hnumber, -, -⟩ := Statement.trimEnd_of_ofLine?_eq_some hline
  cases Statement.reads_of_eq hreading with
  | header hcommand =>
      refine ⟨?_, ?_, line_behind _ text h.line⟩
      · rw [statements_cons_of_some hline, resume_of_header hcommand]
        exact h.meaning
      · rw [statements_cons_of_some hline, headLines_of_header hcommand, hnumber, ← h.records]
        rfl

/-- The line with the number `start` is still the one on which the block has begun. -/
theorem Course.Tells.extended {longer : Block} (hb : b.Sound)
    (hline : Statement.ofLine? (n + 1) text = some st)
    (hreading : st.reading (some b) = .extended longer)
    (h : later.Tells (n + 1) start (some longer) texts instructions) :
    (later.behind (.ofReading (n + 1) start (.extended longer))).Tells n start (some b)
      (text :: texts) instructions := by
  cases Statement.reads_of_eq hreading with
  | body hspace hextend =>
      refine ⟨?_, ?_, line_behind _ text h.line⟩
      · rw [statements_cons_of_some hline, resume_of_extend_ok hb hspace hextend, h.meaning]
      · rw [statements_cons_of_some hline, headLines_of_body hspace b longer, ← h.records]
        rfl

/-- The line behind a block has not been counted when the record of the block is written. -/
theorem Course.Tells.ended (hline : Statement.ofLine? (n + 1) text = some st)
    (hreading : st.reading (some b) = .ended b)
    (h : later.Tells n start none (text :: texts) instructions) :
    (later.behind (.ofReading (n + 1) start (.ended b))).Tells n start (some b) (text :: texts)
      (b.instruction :: instructions) := by
  obtain ⟨hmeaning, hrecords, hcount⟩ := h
  rw [statements_cons_of_some hline] at hmeaning hrecords
  cases Statement.reads_of_eq hreading with
  | behindBody hspace hindent =>
      refine ⟨?_, ?_, fun parser => hcount _⟩
      · rw [statements_cons_of_some hline, resume_behind_body hspace hindent, hmeaning]
        rfl
      · rw [statements_cons_of_some hline, headLines_behind_body hspace, List.zipWith_cons_cons,
          ← hrecords]
        rfl

end

/-- At the end of the lines there is only the open block left to write. -/
theorem tells_nil (n start : Nat) {block : Option Block} (hblock : ∀ b ∈ block, b.Sound) :
    (Course.mk [.closing n start block] none).Tells n start block []
      (block.toList.map Block.instruction) := by
  refine ⟨resume_nil hblock, ?_, fun parser => rfl⟩
  cases block with
  | none =>
      rw [statements, headLines, constructs]
      rfl
  | some b =>
      rw [statements, headLines, List.dropWhile_nil, constructs]
      rfl

/-- A course that does not fail has read texts, and has made of them what they say. -/
theorem exists_tells {n start : Nat} {block : Option Block} (hblock : ∀ b ∈ block, b.Sound)
    {lines : List Bytes} (h : (course n start block lines).failure? = none) :
    ∃ texts instructions, lines = texts.map Utf8.encode ∧
      (course n start block lines).Tells n start block texts instructions := by
  induction n, start, block, lines using course_induction with
  | nil n start block hcourse =>
      rw [hcourse]
      exact ⟨[], _, rfl, tells_nil n start hblock⟩
  | notText n start block line rest hbytes hcourse =>
      rw [hcourse] at h
      cases h
  | faulty n start block text rest st fault hline hreading hcourse =>
      rw [hcourse] at h
      cases h
  | silent n start block text rest hline hcourse ih =>
      rw [hcourse] at h ⊢
      obtain ⟨texts, instructions, rfl, htells⟩ := ih hblock h
      exact ⟨text :: texts, instructions, rfl, htells.silent hline⟩
  | complete n start text rest st instruction hline hreading hcourse ih =>
      rw [hcourse] at h ⊢
      obtain ⟨texts, instructions, rfl, htells⟩ := ih hblock h
      exact ⟨text :: texts, _, rfl, htells.complete hline hreading⟩
  | opened n start text rest st b hline hreading hsound hcourse ih =>
      rw [hcourse] at h ⊢
      obtain ⟨texts, instructions, rfl, htells⟩ := ih (by simpa) h
      exact ⟨text :: texts, instructions, rfl, htells.opened hline hreading⟩
  | extended n start b text rest st longer hline hreading hsound hcourse ih =>
      rw [hcourse] at h ⊢
      obtain ⟨texts, instructions, rfl, htells⟩ := ih (by simpa) h
      exact ⟨text :: texts, instructions, rfl, htells.extended (hblock b rfl) hline hreading⟩
  | ended n start b text rest st hline hreading hcourse ih =>
      rw [hcourse] at h ⊢
      obtain ⟨texts, instructions, hlines, htells⟩ := ih (by simp) h
      -- the line that ended the block is the first of the lines that the rest has read
      obtain ⟨first, texts, rfl, hfirst, hrest⟩ := List.map_eq_cons_iff.1 hlines.symm
      obtain rfl := Utf8.encode_inj.1 hfirst
      exact ⟨first :: texts, _, hlines, htells.ended hline hreading⟩

/-! ## The report of a run -/

theorem messages_of_regular {stages : List Stage} (h : ∀ stage ∈ stages, stage.Regular) :
    Event.messages (stages.flatMap Stage.report) = (recordsOfStages stages).map recordMessage := by
  induction stages with
  | nil => rfl
  | cons stage rest ih =>
      obtain ⟨hstage, hrest⟩ := List.forall_mem_cons.1 h
      rw [List.flatMap_cons, messages_append, hstage.messages_report, ih hrest,
        recordsOfStages_cons, List.map_append]

/-- A run that succeeds has passed all stages of its course. -/
theorem passed_of_runOver {device : Device σ} {script : Bytes} {state : σ}
    {tally : Tally} {s : Session σ} (h : runOver device script (.new state) = .ok tally s) :
    (course 0 0 none (Source.lines script)).failure? = none ∧
      ∃ next, s = ((Session.new state).started.passed
          (course 0 0 none (Source.lines script)).stages next).concluded ∧
        tally = s.tally := by
  rcases follow_cases device (s := (Session.new state).started)
    (regular_course 0 0 none (Source.lines script)) rfl with ⟨next, hfollow⟩ | ⟨j, hstopped⟩
  · rw [runOver_of_follow hfollow] at h
    cases hfailure : (course 0 0 none (Source.lines script)).failure? with
    | some failure =>
        rw [hfailure] at h
        cases h
    | none =>
        rw [hfailure] at h
        cases h
        exact ⟨rfl, next, rfl, rfl⟩
  · obtain ⟨record, fault, left, -, hfollow, -⟩ := hstopped
    rw [runOver_of_follow_error hfollow] at h
    cases h

/-- A run that has ended with the given tally, seen from its report.  The texts are those of the
lines of its script, and the records are those that its output decodes to. -/
structure Reports (script : Bytes) (tally : Tally) (s : Session σ)
    (texts : List (List Char)) (records : List Located) : Prop where
  lines : Source.lines script = texts.map Utf8.encode
  decodes : recordsOf s.sink.taken = .ok records
  /-- Every record is written on its own, and can be decoded on its own. -/
  flushed : s.sink.flushed = records.map fun r => r.instruction.wire
  alone : ∀ r ∈ records, recordsOf r.instruction.wire = .ok [⟨0, r.instruction⟩]
  /-- Every record is what the construct says that begins on the line with the reported number. -/
  means : List.Forall₂ (fun c r => c.head.StandsIn texts ∧ Construct.Means c r.instruction)
    (constructs (statements 1 texts)) records
  messages : Event.messages s.journal =
    ["Translating input..."] ++
      List.zipWith (fun c r =>
        "Line " ++ Text.paddedDecimal 3 c.head.line ++ ": " ++ r.instruction.entry)
        (constructs (statements 1 texts)) records ++
      ["Translation succeeded", "Parsed " ++ toString tally.lines ++ " lines",
        "Wrote " ++ toString tally.instructions ++ " instructions", "Done"]
  tally : tally = ⟨(Source.lines script).length, records.length⟩

theorem messages_concluded (s : Session σ) :
    Event.messages s.concluded.journal = Event.messages s.journal ++
      ["Translation succeeded", "Parsed " ++ toString s.parser.line ++ " lines",
        "Wrote " ++ toString s.instructions ++ " instructions", "Done"] := by
  rw [concluded, messages_append]
  rfl

theorem recordsOf_wire {i : Instruction} (h : i.WellFormed) : recordsOf i.wire = .ok [⟨0, i⟩] := by
  have hlaid : Laid 0 [⟨0, i⟩] (i.wire ++ []) := .cons h (.nil _)
  rw [List.append_nil] at hlaid
  exact recordsOf_iff_laid.2 hlaid

/-- The session at the end of a run, if the course of the run tells what its script says. -/
theorem reports_of_tells {script : Bytes} {state next : σ} {c : Course} {texts : List (List Char)}
    {instructions : List Instruction} (hlines : Source.lines script = texts.map Utf8.encode)
    (hregular : ∀ stage ∈ c.stages, stage.Regular) (h : c.Tells 0 0 none texts instructions) :
    ∃ records, Reports script ((Session.new state).started.passed c.stages next).tally
      ((Session.new state).started.passed c.stages next).concluded texts records := by
  have hmeaning : instructionsOf (constructs (statements 1 texts)) = .ok instructions := h.meaning
  have hmeans : List.Forall₂ Construct.Means (constructs (statements 1 texts)) instructions :=
    forall₂_of_instructionsOf (fun c hc => body_of_mem_constructs hc) hmeaning
  have hwell : ∀ i ∈ instructions, i.WellFormed :=
    forall_of_forall₂ (fun c i hi => hi.wellFormed) hmeans
  obtain ⟨records, hlaid, rfl⟩ := Laid.exists_of_wellFormed 0 hwell
  rw [List.forall₂_map_right_iff] at hmeans
  -- one record for each construct, on the line on which it begins
  have hrecords : recordsOfStages c.stages =
      List.zipWith (fun c r => recordOn c.head.line r.instruction)
        (constructs (statements 1 texts)) records := by
    rw [h.records, headLines, List.zipWith_map]
  have hlength : (recordsOfStages c.stages).length = records.length := by
    rw [hrecords, List.length_zipWith, hmeans.length_eq, Nat.min_self]
  have hbytes : (recordsOfStages c.stages).map Record.bytes =
      records.map fun r => r.instruction.wire := by
    rw [hrecords]
    refine List.ext_getElem (by simp [hmeans.length_eq]) ?_
    intro k hk hk'
    simp [recordOn]
  have hmessages : (recordsOfStages c.stages).map recordMessage = List.zipWith (fun c r =>
      "Line " ++ Text.paddedDecimal 3 c.head.line ++ ": " ++ r.instruction.entry)
        (constructs (statements 1 texts)) records := by
    rw [hrecords, List.map_zipWith]
    simp only [recordMessage, recordOn, Instruction.description_eq_entry]
  refine ⟨records, hlines, ?_, hbytes, ?_, ?_, ?_, ?_⟩
  · have htaken : (records.map Located.instruction).flatMap Instruction.wire =
        ((Session.new state).started.passed c.stages next).concluded.sink.taken := by
      rw [List.flatMap_map, List.flatMap_def, ← hbytes]
      exact (List.append_nil _).symm
    rw [htaken] at hlaid
    exact recordsOf_iff_laid.2 hlaid
  · intro r hr
    exact recordsOf_wire (hwell _ (List.mem_map_of_mem hr))
  · exact (List.forall₂_and_left _ _).2 ⟨fun c hc => standsIn_of_mem_constructs hc, hmeans⟩
  · rw [messages_concluded, ← hmessages, ← messages_of_regular hregular]
    rfl
  · have hnone : (Session.new state).started.instructions = 0 := rfl
    rw [tally, hlines, List.length_map, ← hlength]
    simp only [passed, h.line, hnone, Nat.zero_add]

/-- The progress report of a run that succeeds tells the truth about its output.  There is one
message for each record, in the order of the records.  It has the number of the line on which the
construct of the record begins, and the entry of the instruction that the bytes of the record decode
to. -/
theorem report_of_runOver {device : Device σ} {script : Bytes} {state : σ} {tally : Tally}
    {s : Session σ} (h : runOver device script (.new state) = .ok tally s) :
    ∃ texts records, Reports script tally s texts records := by
  obtain ⟨hfailure, next, rfl, rfl⟩ := passed_of_runOver h
  obtain ⟨texts, instructions, hlines, htells⟩ := exists_tells (by simp) hfailure
  exact ⟨texts, reports_of_tells hlines (regular_course _ _ _ _) htells⟩

/-- A block that is ended by the command behind a comment, and one that is ended by the script. -/
theorem report_of_runOver_two_blocks :
    (∃ texts records, Reports (Utf8.encode "S v\n x = 7\n# y\nc \"\" b\nU w\n".toList) ⟨5, 3⟩
        (left (runOver Device.unlimited
          (Utf8.encode "S v\n x = 7\n# y\nc \"\" b\nU w\n".toList)) (.new ())) texts records) ∧
      Event.messages (left (runOver Device.unlimited
          (Utf8.encode "S v\n x = 7\n# y\nc \"\" b\nU w\n".toList)) (.new ())).journal =
        ["Translating input...", "Line   1: S (set all values for element \"v\")",
          "Line   4: c (remove audio connections to \"b\")",
          "Line   5: U (update some values for element \"w\")", "Translation succeeded",
          "Parsed 5 lines", "Wrote 3 instructions", "Done"] := by
  refine ⟨report_of_runOver (eq_ok_of_ending ?_), ?_⟩
  · decide +kernel
  · decide +kernel

end Session

end Patchbay
