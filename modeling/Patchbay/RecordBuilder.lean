import Patchbay.Instruction.Wire

/-!
# Building records

A record is built in three stages: it is started on a line, bytes are appended to it, and it is
sealed with a description.  Only a sealed record can be seen, and it has to be taken before the
next one is started.

Every other order of calls is a mistake of the caller.  A mistaken call fails and names the
mistake; the builder stays usable.  It keeps its state after most mistakes, but sealing and taking
give the state up before they look at it, so after a mistaken one the builder is empty.
-/

namespace Patchbay

/-- A complete record. -/
structure Record where
  /-- The line of the script that the record started on, counted from 1. -/
  line : Nat
  description : String
  bytes : Bytes
deriving DecidableEq, Repr

/-- The record under construction. -/
inductive RecordBuilder where
  | empty
  | drafting (line : Nat) (bytes : Bytes)
  | sealed (record : Record)
deriving DecidableEq, Repr

/-- A step that breaks a contract: a call that the state of the builder does not allow, or a step
that the lines before it should have ruled out. -/
inductive Misuse where
  | beginWhileOpen
  | beginBeforeTaken
  | appendUnbegun
  | appendSealed
  | sealUnbegun
  | sealTwice
  | lineOfIncomplete
  | descriptionOfIncomplete
  | releaseIncomplete
  | abandonSealed
  /-- A command is read off a line that says nothing. -/
  | commandOfBlank
  /-- A block ends with more assignments than its byte can count. -/
  | countOverflow
  /-- A line is given back that was never counted. -/
  | lineUncounted
  /-- A text is cut beyond its end or inside a character. -/
  | cutAstray
deriving DecidableEq, Repr

/-- The message for a mistaken call. -/
def Misuse.message : Misuse → String
  | beginWhileOpen => "cannot start a record while building another"
  | beginBeforeTaken => "cannot start a record before the sealed one is taken"
  | appendUnbegun => "cannot append to a record that was never started"
  | appendSealed => "cannot append to a sealed record"
  | sealUnbegun => "cannot commit a record that was never started"
  | sealTwice => "cannot re-commit a sealed record"
  | lineOfIncomplete => "cannot read the line number of an incomplete record"
  | descriptionOfIncomplete => "cannot read the description of an incomplete record"
  | releaseIncomplete => "cannot take an incomplete record"
  | abandonSealed => "cannot discard a sealed record"
  | commandOfBlank => "command line is not blank"
  | countOverflow => "block size is capped"
  | lineUncounted => "no line to give back"
  | cutAstray => "text cut off a character boundary"

namespace RecordBuilder

/-- A call on a builder: it answers or fails, and leaves a builder in either case. -/
abbrev Call := EStateM Misuse RecordBuilder

/-- Starts a record on a line. -/
def begin (line : Nat) : Call Unit
  | empty => .ok () (drafting line [])
  | drafting l bytes => .error .beginWhileOpen (drafting l bytes)
  | sealed record => .error .beginBeforeTaken (sealed record)

/-- Appends bytes to the record. -/
def append (bytes : Bytes) : Call Unit
  | empty => .error .appendUnbegun empty
  | drafting line sofar => .ok () (drafting line (sofar ++ bytes))
  | sealed record => .error .appendSealed (sealed record)

/-- Appends a string and its terminator. -/
def appendString (s : String) : Call Unit :=
  append (wireString s)

/-- Seals the record under a description. -/
def finish (description : String) : Call Unit
  | empty => .error .sealUnbegun empty
  | drafting line bytes => .ok () (sealed ⟨line, description, bytes⟩)
  | sealed _ => .error .sealTwice empty

/-- The line of the sealed record. -/
def line : Call Nat
  | sealed record => .ok record.line (sealed record)
  | other => .error .lineOfIncomplete other

/-- The description of the sealed record. -/
def description : Call String
  | sealed record => .ok record.description (sealed record)
  | other => .error .descriptionOfIncomplete other

/-- Hands out the sealed record. -/
def release : Call Record
  | sealed record => .ok record empty
  | _ => .error .releaseIncomplete empty

/-- Drops a record that is not sealed. -/
def abandon : Call Unit
  | sealed record => .error .abandonSealed (sealed record)
  | _ => .ok () empty

/-- Hands out the sealed record, if there is one. -/
def releaseSealed? : Call (Option Record)
  | sealed record => .ok (some record) empty
  | other => .ok none other

end RecordBuilder

end Patchbay
