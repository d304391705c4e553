import Patchbay.RecordBuilder
import Patchbay.Script.Command

/-!
# The line parser

The parser takes one physical line at a time.  Blank lines and comments count but say nothing.  A
header opens a block; the first line of its body fixes the indentation, and every other line of the
body has exactly that many leading spaces.  A block ends at the next line that is not indented, or
at the end of the script.  A line that ends a block seals the record of the block first and has to
be given once more.

The parser builds records in a `RecordBuilder`.  A sealed record has to be taken before the next
line is given; a caller that forgets this gets the mistake of the builder as its answer.
-/

namespace Patchbay.Script

/-- The most assignments a block can have: their number is written in one byte. -/
def assignmentLimit : Nat := 255

/-- A block whose body is being read. -/
structure Block where
  kind : BlockKind
  element : String
  /-- The leading spaces of a line of the body, once the first of them has been seen. -/
  indent : Option Nat
  assignments : List Assignment
deriving DecidableEq, Repr

namespace Block

/-- The instruction of a block. -/
def instruction (block : Block) : Instruction :=
  block.kind.instruction block.element block.assignments

/-- The bytes that are known once the header has been read. -/
def header (block : Block) : Bytes :=
  block.kind.opcode.byte :: wireString block.element

theorem header_append_wireList (block : Block) :
    block.header ++ Assignment.wireList block.assignments = block.instruction.wire := by
  unfold header instruction Instruction.wire BlockKind.instruction BlockKind.opcode
  cases block.kind <;> rfl

end Block

/-- The state between two lines. -/
structure Parser where
  /-- The number of lines taken. -/
  line : Nat
  /-- The open block, if the parser is inside one. -/
  block : Option Block
  builder : RecordBuilder
deriving DecidableEq, Repr

/-- What a line did. -/
inductive Outcome where
  /-- It was taken. -/
  | taken
  /-- It was taken and opened a block. -/
  | opened (block : Block)
  /-- It ended a block and has to be given again. -/
  | ended (block : Block)
deriving DecidableEq, Repr

namespace Parser

/-- The parser before the first line. -/
def initial : Parser := ⟨0, none, .empty⟩

/-- An operation of the parser; it fails only by a broken contract, never by the script. -/
abbrev Operation := EStateM Misuse Parser

/-- Makes a call on the builder of the parser. -/
def build {α : Type} (call : RecordBuilder.Call α) : Operation α := fun parser =>
  match call parser.builder with
  | .ok a builder => .ok a { parser with builder }
  | .error misuse builder => .error misuse { parser with builder }

/-- Changes the open block. -/
def setBlock (block : Option Block) : Operation Unit :=
  modify fun parser => { parser with block }

/-- Changes the number of lines taken. -/
def setLine (line : Nat) : Operation Unit :=
  modify fun parser => { parser with line }

/-- Gives back the line that was counted last. -/
def uncountLine : Operation Unit := do
  match (← get).line with
  | 0 => throw .lineUncounted
  | line + 1 => setLine line

/-- Whether a line without its trailing blanks says nothing: it is blank or a comment. -/
def isIgnored (line : List Char) : Bool :=
  match Text.trimStart line with
  | [] => true
  | c :: _ => c == '#'

/-- Leaves a block and seals its record. -/
def leaveBlock (block : Block) : Operation Unit := do
  setBlock none
  if assignmentLimit < block.assignments.length then throw .countOverflow
  build (RecordBuilder.append (Assignment.wireList block.assignments))
  build (RecordBuilder.finish block.instruction.description)

/-- Carries out a command whose record has been started. -/
def perform : Command → Operation Outcome
  | .complete instruction => do
    build (RecordBuilder.append instruction.wire)
    build (RecordBuilder.finish instruction.description)
    return .taken
  | .header kind element => do
    let block : Block := ⟨kind, element, none, []⟩
    build (RecordBuilder.append block.header)
    setBlock (some block)
    return .opened block

/-- Takes a line outside of blocks. -/
def commandLine (line : List Char) : Operation (Except Fault Outcome) :=
  match line with
  | [] => throw .commandOfBlank
  | letter :: rest =>
    if letter == ' ' then return .error .indentedTooMuch
    else
      match Opcode.ofLetter? letter with
      | none => return .error (.noSuchCommand letter)
      | some opcode => do
        build (RecordBuilder.begin (← get).line)
        match command opcode (Text.trimStart rest) with
        | .error fault => return .error fault
        | .ok command => return .ok (← perform command)

/-- Takes a line of a body, which is cut after `indent` spaces. -/
def bodyLine (block : Block) (indent : Nat) (line : List Char) :
    Operation (Except Fault Outcome) :=
  match Utf8.dropBytes? line indent with
  | none => throw .cutAstray
  | some body =>
    if body.head? == some ' ' then return .error .indentedTooMuch
    else if block.assignments.length == assignmentLimit then
      return .error (.blockFull block.element assignmentLimit)
    else
      match assignment body with
      | .error fault => return .error fault
      | .ok a => do
        setBlock (some { block with assignments := block.assignments ++ [a] })
        return .ok .taken

/-- Takes a line inside a block. -/
def blockLine (block : Block) (line : List Char) : Operation (Except Fault Outcome) :=
  let leading := Text.leadingSpaces line
  match block.indent with
  | none =>
    if leading == 0 then return .error .notIndented
    else do
      let block := { block with indent := some leading }
      setBlock (some block)
      bodyLine block leading line
  | some indent =>
    if indent ≤ leading then bodyLine block indent line
    else if 0 < leading then return .error .indentedTooLittle
    else do
      leaveBlock block
      uncountLine
      return .ok (.ended block)

/-- Takes a line that has been counted. -/
def countedLine (text : List Char) : Operation (Except Fault Outcome) := do
  let line := Text.trimEnd text
  if isIgnored line then return .ok .taken
  match (← get).block with
  | none => commandLine line
  | some block => blockLine block line

/-- Takes one physical line.  After a fault the record under construction is dropped and the
parser is outside of blocks. -/
def parse (text : List Char) : Operation (Except ScriptError Outcome) := do
  setLine ((← get).line + 1)
  match ← countedLine text with
  | .ok outcome => return .ok outcome
  | .error fault =>
    build RecordBuilder.abandon
    setBlock none
    return .error ⟨(← get).line, fault⟩

/-- Ends an open block at the end of the script, and answers with it. -/
def close : Operation (Option Block) := do
  match (← get).block with
  | none => return none
  | some block =>
    leaveBlock block
    return some block

end Parser

end Patchbay.Script
