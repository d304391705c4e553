import Patchbay.Compiler.Event
import Patchbay.Compiler.Sink
import Patchbay.Source.Lines

/-!
# Sessions of the compiler

A session feeds the lines of a script to the parser and writes each record as soon as it is
sealed, so the records before a fault reach the sink even though the run fails.  It can run over
several scripts in turn; the number of lines and of instructions goes on counting.
-/

namespace Patchbay

/-- The counts at the end of a successful run. -/
structure Tally where
  /-- Physical lines read, with those that are blank or comments. -/
  lines : Nat
  /-- Records written. -/
  instructions : Nat
deriving DecidableEq, Repr

/-- Why a run failed. -/
inductive Failure where
  | script (error : ScriptError)
  | stream (error : StreamError)
  /-- A broken contract of the parser or of its record builder. -/
  | misuse (mistake : Misuse)
deriving DecidableEq, Repr

/-- The message for a failed run. -/
def Failure.message : Failure → String
  | script error => error.message
  | stream error => "I/O error: " ++ error.message
  | misuse mistake => mistake.message

/-- The state between two lines of a run. -/
structure Session (σ : Type) where
  parser : Script.Parser
  sink : Sink σ
  /-- Records taken from the parser since the first run. -/
  instructions : Nat
  /-- What the current run has reported so far. -/
  journal : List Event

namespace Session

variable {σ : Type}

/-- A session before its first run. -/
def new (device : σ) : Session σ :=
  ⟨.initial, .new device, 0, []⟩

/-- A part of a run. -/
abbrev Action (σ : Type) := EStateM Failure (Session σ)

/-- Adds to the report. -/
def report (event : Event) : Action σ Unit :=
  modify fun s => { s with journal := s.journal ++ [event] }

/-- Adds a line to the progress report. -/
def say (text : String) : Action σ Unit :=
  report (.message text)

/-- Carries out an operation of the parser. -/
def parserDo {α : Type} (operation : Script.Parser.Operation α) : Action σ α := fun s =>
  match operation s.parser with
  | .ok a parser => .ok a { s with parser }
  | .error mistake parser => .error (.misuse mistake) { s with parser }

/-- Carries out an operation of the sink. -/
def sinkDo (operation : Sink σ → Except StreamError Unit × Sink σ) : Action σ Unit := fun s =>
  match operation s.sink with
  | (.ok (), sink) => .ok () { s with sink }
  | (.error fault, sink) => .error (.stream fault) { s with sink }

/-- The progress message for a record. -/
def recordMessage (record : Record) : String :=
  "Line " ++ Text.paddedDecimal 3 record.line ++ ": " ++ record.description

/-- Writes a record that has been taken from the parser. -/
def writeRecord (device : Device σ) (record : Record) : Action σ Unit := do
  modify fun s => { s with instructions := s.instructions + 1 }
  say (recordMessage record)
  report (.log (.recordWritten record.line record.bytes.length record.description))
  sinkDo (Sink.writeAll device record.bytes)
  sinkDo (Sink.flush device)

/-- Writes the record that the parser has sealed, if there is one. -/
def writeSealed (device : Device σ) : Action σ Unit := do
  match ← parserDo (Script.Parser.build RecordBuilder.releaseSealed?) with
  | none => return
  | some record => writeRecord device record

/-- Logs what a line did. -/
def logOutcome (outcome : Script.Outcome) : Action σ Unit := do
  let line := (← get).parser.line
  match outcome with
  | .taken => return
  | .opened block => report (.log (.blockOpened line block.kind.opcode block.element))
  | .ended block =>
    report (.log (.blockClosed block.element block.assignments.length))
    report (.log (.lineRepeated (line + 1)))

/-- Gives a line to the parser and writes the record it sealed. -/
def offer (device : Device σ) (line : List Char) : Action σ Script.Outcome := do
  match ← parserDo (Script.Parser.parse line) with
  | .error error => throw (.script error)
  | .ok outcome =>
    logOutcome outcome
    writeSealed device
    return outcome

/-- Gives a line to the parser until it is taken, at most `attempts` times. -/
def offerUntilTaken (device : Device σ) (line : List Char) : Nat → Action σ Unit
  | 0 => return
  | attempts + 1 => do
    match ← offer device line with
    | .ended _ => offerUntilTaken device line attempts
    | .taken => return
    | .opened _ => return

/-- Takes one line.  The first offer may end a block; after it the parser expects a command,
so the second offer is the last. -/
def feedLine (device : Device σ) (line : List Char) : Action σ Unit :=
  offerUntilTaken device line 2

/-- Takes one line that has been read as bytes. -/
def feedBytes (device : Device σ) (line : Bytes) : Action σ Unit :=
  match Utf8.decode? line with
  | none => throw (.stream .invalidUtf8)
  | some text => feedLine device text

/-- Begins a run. -/
def start : Action σ Unit := do
  modify fun s => { s with journal := [] }
  say "Translating input..."

/-- Ends a run after the last line of its script. -/
def finish (device : Device σ) : Action σ Tally := do
  match ← parserDo Script.Parser.close with
  | none => pure ()
  | some block => report (.log (.blockClosed block.element block.assignments.length))
  writeSealed device
  let s ← get
  let tally : Tally := ⟨s.parser.line, s.instructions⟩
  report (.log (.runFinished tally.lines tally.instructions))
  say "Translation succeeded"
  say ("Parsed " ++ toString tally.lines ++ " lines")
  say ("Wrote " ++ toString tally.instructions ++ " instructions")
  say "Done"
  return tally

/-- Takes lines that have been read as bytes, one after the other. -/
def feedAll (device : Device σ) : List Bytes → Action σ Unit
  | [] => return
  | line :: rest => do
    feedBytes device line
    feedAll device rest

/-- Runs over a script. -/
def runOver (device : Device σ) (script : Bytes) : Action σ Tally := do
  start
  feedAll device (Source.lines script)
  finish device

end Session

/-- Compiles a script to a stream. -/
def compile (script : String) : Except Failure Bytes :=
  match Session.runOver Device.unlimited (Utf8.encode script.toList) (.new ()) with
  | .ok _ s => .ok s.sink.taken
  | .error failure _ => .error failure

end Patchbay
