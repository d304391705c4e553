/-!
# Faults of files and streams

The faults that reading and writing can meet: those that the system reports for a path, and those
of a stream that is open.
-/

namespace Patchbay

/-- A fault that the system reports. -/
inductive SystemError where
  | notFound
  | notADirectory
  | isADirectory
  | nameTooLong
  /-- Any other fault, by the text that the system gives for it. -/
  | other (description : String)
deriving DecidableEq, Repr

/-- The message and the number of a system fault. -/
def SystemError.message : SystemError → String
  | notFound => "No such file or directory (os error 2)"
  | notADirectory => "Not a directory (os error 20)"
  | isADirectory => "Is a directory (os error 21)"
  | nameTooLong => "File name too long (os error 36)"
  | other description => description

/-- A fault of an open stream. -/
inductive StreamError where
  /-- A line is no text. -/
  | invalidUtf8
  /-- The device has no room left. -/
  | deviceFull
  /-- The device did not take what was written to it for good. -/
  | flushFailed
  /-- The device took none of the bytes it was offered. -/
  | nothingWritten
  | system (error : SystemError)
deriving DecidableEq, Repr

/-- The message for a fault of a stream. -/
def StreamError.message : StreamError → String
  | invalidUtf8 => "stream did not contain valid UTF-8"
  | deviceFull => "disk full"
  | flushFailed => "flush failed"
  | nothingWritten => "failed to write whole buffer"
  | system error => error.message

end Patchbay
