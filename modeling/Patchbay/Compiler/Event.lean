import Patchbay.Script.Parser

/-!
# What a run reports

A run reports progress messages, one line each, and log events for those who look for
faults in the compiler itself.  Both are kept in one sequence, in the order in which they
happened.
-/

namespace Patchbay

/-- The severity of a log event, the most severe first. -/
inductive LogLevel where
  | error
  | warn
  | info
  | debug
  | trace
deriving DecidableEq, Repr

namespace LogLevel

/-- The place of a level in the order of severity. -/
def rank : LogLevel → Nat
  | error => 1
  | warn => 2
  | info => 3
  | debug => 4
  | trace => 5

/-- The name of a level in a log line. -/
def name : LogLevel → String
  | error => "ERROR"
  | warn => "WARN"
  | info => "INFO"
  | debug => "DEBUG"
  | trace => "TRACE"

end LogLevel

/-- Something worth logging. -/
inductive LogEvent where
  | blockOpened (line : Nat) (opcode : Opcode) (element : String)
  | blockClosed (element : String) (assignments : Nat)
  | lineRepeated (line : Nat)
  | recordWritten (line size : Nat) (description : String)
  | runFinished (lines instructions : Nat)
  | compiled (instructions : Nat) (output : Option String)
deriving DecidableEq, Repr

namespace LogEvent

/-- The severity of an event: what concerns single lines of a block is only traced. -/
def level : LogEvent → LogLevel
  | blockOpened _ _ _ => .trace
  | blockClosed _ _ => .trace
  | lineRepeated _ => .trace
  | recordWritten _ _ _ => .debug
  | runFinished _ _ => .debug
  | compiled _ _ => .debug

/-- The part of the program that an event comes from. -/
def target : LogEvent → String
  | blockOpened _ _ _ => "aupal_compiler::parser"
  | blockClosed _ _ => "aupal_compiler::parser"
  | lineRepeated _ => "aupal_compiler::parser"
  | recordWritten _ _ _ => "aupal_compiler::translator"
  | runFinished _ _ => "aupal_compiler::translator"
  | compiled _ _ => "aupalc::commands::compile"

/-- The names of the fields of an event.  The message is a field of every event. -/
def fields : LogEvent → List String
  | blockOpened _ _ _ => ["message", "line", "opcode", "element"]
  | blockClosed _ _ => ["message", "element", "assignments"]
  | lineRepeated _ => ["message", "line"]
  | recordWritten _ _ _ => ["message", "line", "size", "description"]
  | runFinished _ _ => ["message", "lines", "instructions"]
  | compiled _ _ => ["message", "instructions", "output"]

/-- A path that may be absent. -/
def optionalPath : Option String → String
  | none => "None"
  | some path => "Some(" ++ Text.quotedText path ++ ")"

/-- The message of an event and its fields. -/
def text : LogEvent → String
  | blockOpened line opcode element =>
    "block opened line=" ++ toString line ++ " opcode=" ++ opcode.letter.toString ++
      " element=" ++ Text.quotedText element
  | blockClosed element assignments =>
    "block closed element=" ++ element ++ " assignments=" ++ toString assignments
  | lineRepeated line => "reprocessing line after block line=" ++ toString line
  | recordWritten line size description =>
    "record written line=" ++ toString line ++ " size=" ++ toString size ++ " description=" ++
      description
  | runFinished lines instructions =>
    "translation finished lines=" ++ toString lines ++ " instructions=" ++ toString instructions
  | compiled instructions output =>
    "compiled instructions=" ++ toString instructions ++ " output=" ++ optionalPath output

/-- The log line of an event. -/
def logLine (event : LogEvent) : String :=
  event.level.name ++ " " ++ event.target ++ ": " ++ event.text

end LogEvent

/-- What a run reports. -/
inductive Event where
  /-- A line of the progress report. -/
  | message (text : String)
  | log (event : LogEvent)
deriving DecidableEq, Repr

/-- The lines of the progress report. -/
def Event.messages (journal : List Event) : List String :=
  journal.filterMap fun
    | .message text => some text
    | .log _ => none

end Patchbay
