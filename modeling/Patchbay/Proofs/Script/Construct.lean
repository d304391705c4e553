import Patchbay.Proofs.Source.Lines
import Patchbay.Script.Parser

/-!
# Scripts as lists of constructs

The parser takes a script line by line and has to remember what it is in the middle of.  This file
reads a script as a whole instead.  Its lines that say something are its *statements*; blank lines
and comments only leave gaps in their numbers.  A statement that begins with the letter of a block
command, together with the longest run of indented statements after it, is one *construct*, and so
is every other statement by itself.

Each construct has an instruction of its own, `Construct.instruction`, which depends on nothing but
the construct and the statement that follows it: a header without a body is a fault of that
statement, and an empty block if there is none.  The stream of a script, `wholeStream`, is the
concatenation of the records of these instructions.  The first construct without an instruction
decides the error.
-/

namespace Patchbay.Script

/-! ## Statements -/

/-- A line that is neither blank nor a comment, with its number.  Its text without the blanks at its
end is not empty, so the first character stands apart. -/
structure Statement where
  line : Nat
  first : Char
  rest : List Char
deriving DecidableEq, Repr

namespace Statement

/-- The line without the blanks at its end. -/
def text (s : Statement) : List Char :=
  s.first :: s.rest

/-- The spaces that the line begins with. -/
def indentation (s : Statement) : Nat :=
  Text.leadingSpaces s.text

def isIndented (s : Statement) : Bool :=
  s.first == ' '

/-- Whether the line begins with the letter of a block command. -/
def isHeader (s : Statement) : Bool :=
  s.first == 'S' || s.first == 'U'

/-- The statement on the line with the given number, if the line says something. -/
def ofLine? (number : Nat) (line : List Char) : Option Statement :=
  match Text.trimEnd line with
  | [] => none
  | first :: rest =>
      if Parser.isIgnored (first :: rest) then none else some ⟨number, first, rest⟩

/-- What a statement says outside of a block. -/
def command (s : Statement) : Except Fault Command :=
  if s.isIndented then .error .indentedTooMuch
  else
    match Opcode.ofLetter? s.first with
    | none => .error (.noSuchCommand s.first)
    | some opcode => Script.command opcode (Text.trimStart s.rest)

/-- What a statement assigns in the body of a block, as line `index` of it (counted from 0).  All
lines of the body have the indentation `width`. -/
def value (element : String) (width index : Nat) (s : Statement) : Except Fault Assignment :=
  if s.indentation < width then .error .indentedTooLittle
  else if width < s.indentation then .error .indentedTooMuch
  else if assignmentLimit ≤ index then .error (.blockFull element assignmentLimit)
  else assignment (s.text.drop width)

end Statement

/-- The statements of lines, the first of which has the given number. -/
def statements : Nat → List (List Char) → List Statement
  | _, [] => []
  | number, line :: lines =>
      (Statement.ofLine? number line).toList ++ statements (number + 1) lines

/-! ## Constructs -/

/-- A statement with the indented statements that belong to it. -/
structure Construct where
  head : Statement
  body : List Statement
deriving DecidableEq, Repr

/-- Groups statements: a header takes all indented statements up to the next that is not. -/
def constructs : List Statement → List Construct
  | [] => []
  | s :: rest =>
      if s.isHeader then
        ⟨s, rest.takeWhile Statement.isIndented⟩ ::
          constructs (rest.dropWhile Statement.isIndented)
      else ⟨s, []⟩ :: constructs rest
termination_by statements => statements.length
decreasing_by
  · have := (rest.dropWhile_suffix Statement.isIndented).length_le
    simp only [List.length_cons]
    omega
  · simp

/-- The values that the lines of a body assign, from line `index` on. -/
def bodyValues (element : String) (width : Nat) :
    Nat → List Statement → Except ScriptError (List Assignment)
  | _, [] => .ok []
  | index, s :: rest =>
      match s.value element width index with
      | .error fault => .error ⟨s.line, fault⟩
      | .ok a => (bodyValues element width (index + 1) rest).map (a :: ·)

namespace Construct

/-- The values of a block; the first line of its body fixes the indentation.  Without a body there
are none, and the statement that follows should have been indented. -/
def values (element : String) (following : Option Statement) :
    List Statement → Except ScriptError (List Assignment)
  | first :: more => bodyValues element first.indentation 0 (first :: more)
  | [] =>
      match following with
      | none => .ok []
      | some s => .error ⟨s.line, .notIndented⟩

/-- The instruction of a construct before the statement that follows it. -/
def instruction (following : Option Statement) (c : Construct) : Except ScriptError Instruction :=
  match c.head.command with
  | .error fault => .error ⟨c.head.line, fault⟩
  | .ok (.complete instruction) => .ok instruction
  | .ok (.header kind element) =>
      (values element following c.body).map (kind.instruction element)

end Construct

/-- The instructions of constructs, or the error of the first that has none. -/
def instructionsOf : List Construct → Except ScriptError (List Instruction)
  | [] => .ok []
  | c :: rest =>
      match c.instruction (rest.head?.map Construct.head) with
      | .error error => .error error
      | .ok instruction => (instructionsOf rest).map (instruction :: ·)

/-- The constructs of a script. -/
def constructsOf (script : String) : List Construct :=
  constructs (statements 1 (Source.physicalLines script.toList))

/-- The stream of a script, compiled as a whole. -/
def wholeStream (script : String) : Except ScriptError Bytes :=
  (instructionsOf (constructsOf script)).map (List.flatMap Instruction.wire)

end Patchbay.Script
