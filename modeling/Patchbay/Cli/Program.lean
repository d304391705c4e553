import Patchbay.Cli.Arguments
import Patchbay.Cli.FileSystem
import Patchbay.Cli.LogFilter
import Patchbay.Compiler.Compilation
import Patchbay.Diagnostic.Snippet
import Patchbay.Instruction.Document
import Patchbay.Instruction.Listing

/-!
# The program

The program reads a script or a stream, and writes a stream, a listing or diagnostics.  What it
does to the world goes through a host: a record of the few operations it needs, in any monad.  One
host works on a model of files and standard streams, which is what statements about the whole
program are about; another performs the operations.
-/

namespace Patchbay.Cli

/-- The operations on files and standard streams that the program uses. -/
structure Host (m : Type → Type) (File : Type) where
  /-- Opens a file for reading. -/
  openRead : String → m (Except SystemError File)
  /-- Creates a file, or empties it. -/
  create : String → m (Except SystemError File)
  /-- All bytes of an open file. -/
  read : File → m (Except SystemError Bytes)
  /-- Appends to an open file, which has room for everything: that the program exits at a write
  that fails has no counterpart here. -/
  append : File → Bytes → m Unit
  /-- All bytes of the standard input. -/
  readInput : m (Except SystemError Bytes)
  /-- Writes to the standard output. -/
  writeOutput : Bytes → m Unit
  /-- Writes to the standard error output. -/
  writeError : String → m Unit
  /-- Whether both outputs go to a terminal. -/
  terminal : m Bool

/-- A failure outside of a compilation. -/
inductive ProgramError where
  | read (path : String) (error : SystemError)
  | readInput (error : SystemError)
  | write (path : String) (error : SystemError)
  | decode (error : StreamFault)
deriving DecidableEq, Repr

/-- The message for a failure. -/
def ProgramError.message : ProgramError → String
  | read path error => "failed to read '" ++ path ++ "': " ++ error.message
  | readInput error => "failed to read stdin: " ++ error.message
  | write path error => "failed to write '" ++ path ++ "': " ++ error.message
  | decode error => "malformed instruction stream: " ++ error.message

/-- The path of an argument; a dash stands for a standard stream. -/
def namedPath (argument : Option String) : Option String :=
  argument.filter (· != "-")

/-- The text of a dump. -/
def dumpText (format : DumpForm) (color : Bool) (stream : Bytes) :
    Except ProgramError String :=
  match format with
  | .text => (Listing.ofStream color stream).mapError .decode
  | .json => ((streamDocument stream).mapError .decode).map (fun d => d.pretty ++ "\n")

/-- The lines of the error output for what a run reported. -/
def journalText (verbose : Bool) (filter : LogFilter) (journal : List Event) : String :=
  String.join (journal.map fun
    | .message text => if verbose then text ++ "\n" else ""
    | .log event => if filter.admits event then event.logLine ++ "\n" else "")

/-- The error output for a failed compilation. -/
def failureText (color : Bool) (failure : Failure) (reader : Reader) : String :=
  match failure with
  | .script error => Diagnostic.render color error reader.lastLine (some reader.name)
  | other => "error: " ++ other.message ++ "\n"

/-- The bytes that a buffer of the program takes at once. -/
def bufferCapacity : Nat := 8192

namespace Program

variable {m : Type → Type} [Monad m] {File : Type}

/-- Prints a failure and ends with status 1. -/
def failWith (host : Host m File) (error : ProgramError) : m Nat := do
  host.writeError ("error: " ++ error.message ++ "\n")
  return 1

/-- An open script: its path and file, or nothing for the standard input. -/
abbrev ScriptHandle (File : Type) := Option (String × File)

/-- Opens a script. -/
def scriptAt (host : Host m File) (argument : Option String) :
    m (Except ProgramError (ScriptHandle File)) := do
  match namedPath argument with
  | none => return .ok none
  | some path =>
    match ← host.openRead path with
    | .error error => return .error (.read path error)
    | .ok file => return .ok (some (path, file))

/-- A reader of an open script. -/
def readerOf (host : Host m File) (script : ScriptHandle File) : m Reader := do
  let path := script.map Prod.fst
  let contents ←
    match script with
    | none => host.readInput
    | some (_, file) => host.read file
  match contents with
  | .error error => return .unreadable path error
  | .ok bytes => return .new path bufferCapacity bytes

/-- Compiles an open script and reports; `write` gets the records, also those before a fault. -/
def compileScript (host : Host m File) (filter : LogFilter) (verbose color : Bool)
    (script : ScriptHandle File) (write : Bytes → m Unit) : m (Option Tally) := do
  let reader ← readerOf host script
  match Compilation.run Device.unlimited (.new () reader) with
  | .ok tally c =>
    host.writeError (journalText verbose filter c.session.journal)
    write c.session.sink.taken
    return some tally
  | .error failure c =>
    host.writeError (journalText verbose filter c.session.journal)
    write c.session.sink.taken
    host.writeError (failureText color failure c.reader)
    return none

/-- Opens the place for the records: a file, which is created, or the standard output. -/
def outputAt (host : Host m File) (argument : Option String) :
    m (Except ProgramError (Bytes → m Unit)) := do
  match namedPath argument with
  | none => return .ok host.writeOutput
  | some path =>
    match ← host.create path with
    | .error error => return .error (.write path error)
    | .ok file => return .ok (host.append file)

/-- Compiles a script.  The script is opened before the output is created, and the output is
created before anything is read. -/
def compile (host : Host m File) (filter : LogFilter) (input output : Option String)
    (verbose color : Bool) : m Nat := do
  match ← scriptAt host input with
  | .error error => failWith host error
  | .ok script =>
    match ← outputAt host output with
    | .error error => failWith host error
    | .ok write =>
      match ← compileScript host filter verbose color script write with
      | none => return 1
      | some tally =>
        host.writeError
          (journalText false filter [.log (.compiled tally.instructions output)])
        return 0

/-- Compiles a script and drops the records. -/
def check (host : Host m File) (filter : LogFilter) (input : Option String) (color : Bool) :
    m Nat := do
  match ← scriptAt host input with
  | .error error => failWith host error
  | .ok script =>
    match ← compileScript host filter false color script (fun _ => pure ()) with
    | none => return 1
    | some _ => return 0

/-- Reads a stream. -/
def loadStream (host : Host m File) (argument : Option String) :
    m (Except ProgramError Bytes) := do
  match namedPath argument with
  | none => return (← host.readInput).mapError .readInput
  | some path =>
    match ← host.openRead path with
    | .error error => return .error (.read path error)
    | .ok file => return (← host.read file).mapError (.read path)

/-- Shows a stream. -/
def dump (host : Host m File) (input : Option String) (format : DumpForm) (color : Bool) :
    m Nat := do
  match ← loadStream host input with
  | .error error => failWith host error
  | .ok stream =>
    match dumpText format color stream with
    | .error error => failWith host error
    | .ok text =>
      host.writeOutput (Utf8.encode text.toList)
      return 0

/-- Carries out what the arguments ask for, and answers with the exit status. -/
def invoke (host : Host m File) (filter : LogFilter) (invocation : Invocation) : m Nat := do
  let color := invocation.colorize (← host.terminal)
  match invocation with
  | .compile input output verbose _ => compile host filter input output verbose color
  | .check input _ => check host filter input color
  | .dump input format _ => dump host input format color

/-- The text of the version. -/
def versionText : String := "aupalc 0.1.0\n"

/-- How the program is used. -/
def usageText : String :=
  "Usage: aupalc compile [INPUT] [-o <FILE>] [-v] [--color <WHEN>]\n" ++
    "       aupalc check [INPUT] [--color <WHEN>]\n" ++
    "       aupalc dump [BINARY] [--format <FORMAT>] [--color <WHEN>]\n"

/-- Answers arguments that ask for none of the commands: the version and help that was asked for
go to the standard output, all else to the error output. -/
def refuse (host : Host m File) (refusal : Refusal) : m Nat := do
  match refusal with
  | .version => host.writeOutput (Utf8.encode versionText.toList)
  | .help => host.writeOutput (Utf8.encode usageText.toList)
  | _ => host.writeError usageText
  return refusal.exitStatus

/-- The whole program: arguments and the text of the log filter in, the exit status out. -/
def run (host : Host m File) (log : Option String) (arguments : List String) : m Nat :=
  match parseArguments arguments with
  | .error refusal => refuse host refusal
  | .ok invocation => invoke host ((log.map LogFilter.ofText).getD LogFilter.standard) invocation

end Program

/-- A model of the world of the program. -/
structure World where
  files : FileSystem
  input : Bytes
  output : Bytes
  error : String

namespace World

/-- All bytes of an open file or stream. -/
def read (world : World) (target : EntryPath) : Except SystemError Bytes :=
  match world.files.node? target with
  | none => .error .notFound
  | some .directory => .error .isADirectory
  | some (.file contents) => .ok contents
  | some (.stream .input) => .ok world.input
  | some (.stream _) => .ok []

/-- Writes to the end of an open file or stream.  There is no limit to what they hold. -/
def append (world : World) (target : EntryPath) (bytes : Bytes) : World :=
  match world.files.node? target with
  | some (.stream .output) => { world with output := world.output ++ bytes }
  | _ => { world with files := world.files.append target bytes }

/-- The host that works on the model; neither output is a terminal. -/
def host : Host (StateM World) EntryPath where
  openRead path := do return (← get).files.openRead path
  create path := do
    match (← get).files.create path with
    | .error error => return .error error
    | .ok (target, files) =>
      modify fun world => { world with files }
      return .ok target
  read target := do return (← get).read target
  append target bytes := modify fun world => world.append target bytes
  readInput := do return .ok (← get).input
  writeOutput bytes := modify fun world => { world with output := world.output ++ bytes }
  writeError text := modify fun world => { world with error := world.error ++ text }
  terminal := return false

/-- Runs the program in a world: the exit status and the world after it. -/
def run (world : World) (log : Option String) (arguments : List String) : Nat × World :=
  Program.run host log arguments world

end World

end Patchbay.Cli
