import Patchbay.Cli.Program

/-!
# The command line program

Performs the operations of the program on the files and streams of the system.
-/

namespace Patchbay.Cli

/-- The system fault behind a failed operation. -/
def systemError : IO.Error → SystemError
  | .noFileOrDirectory _ _ _ => .notFound
  | .inappropriateType _ 20 _ => .notADirectory
  | .inappropriateType _ 21 _ => .isADirectory
  | .invalidArgument _ 36 _ => .nameTooLong
  | other => .other (toString other)

/-- An operation with its fault as a value. -/
def attempted {α : Type} (operation : IO α) : IO (Except SystemError α) := do
  match ← operation.toBaseIO with
  | .ok a => return .ok a
  | .error error => return .error (systemError error)

/-- The host that performs the operations. -/
def systemHost : Host IO IO.FS.Handle where
  openRead path := attempted (IO.FS.Handle.mk path .read)
  create path := attempted (IO.FS.Handle.mk path .write)
  read file := attempted do return (← file.readBinToEnd).toList
  append file bytes := do
    file.write ⟨bytes.toArray⟩
    file.flush
  readInput := attempted do return (← (← IO.getStdin).readBinToEnd).toList
  writeOutput bytes := do
    let output ← IO.getStdout
    output.write ⟨bytes.toArray⟩
    output.flush
  writeError text := do (← IO.getStderr).putStr text
  terminal := do return (← (← IO.getStdout).isTty) && (← (← IO.getStderr).isTty)

end Patchbay.Cli

/-- Runs the program on the arguments of the process. -/
def main (arguments : List String) : IO UInt32 := do
  let log ← IO.getEnv "AUPALC_LOG"
  let status ← Patchbay.Cli.Program.run Patchbay.Cli.systemHost log arguments
  return UInt32.ofNat status
