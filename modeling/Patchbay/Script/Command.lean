import Patchbay.Script.Assignment

/-!
# Commands

The first character of a line selects the command and the rest of the line holds its arguments,
words without blanks.  Most commands are complete on their line.  The commands that set or update
values are headers: the assignments follow on indented lines.
-/

namespace Patchbay.Script

/-- Whether a block replaces all values of its element or updates some of them. -/
inductive BlockKind where
  | set
  | update
deriving DecidableEq, Repr

namespace BlockKind

/-- The opcode of a block. -/
def opcode : BlockKind → Opcode
  | set => .setValues
  | update => .updateValues

/-- The instruction that a block stands for. -/
def instruction (kind : BlockKind) (element : String) (values : List Assignment) : Instruction :=
  match kind with
  | set => .setValues element values
  | update => .updateValues element values

end BlockKind

/-- What a command line says. -/
inductive Command where
  /-- A complete instruction. -/
  | complete (instruction : Instruction)
  /-- The header of a block. -/
  | header (kind : BlockKind) (element : String)
deriving DecidableEq, Repr

/-- A word as an argument, which has to be a string that can travel. -/
def argument (word : List Char) : Except Fault String :=
  if canTravel word then .ok (String.ofList word)
  else .error (.cannotTravel (String.ofList word))

/-- The words of a text as arguments; the first that cannot travel is the fault. -/
def arguments (text : List Char) : Except Fault (List String) :=
  (Text.words text).mapM argument

/-- An endpoint of a connection; quotes around it are dropped, so that `""` can stand for any. -/
def endpoint (argument : String) : String :=
  match betweenQuotes? argument.toList with
  | some inner => String.ofList inner
  | none => argument

/-- The element before the first blank and the assignment after it. -/
def updateValue (text : List Char) : Except Fault Instruction :=
  let (element, rest) :=
    match Text.splitAtBlank? text with
    | some (front, back) => (front, Text.trimStart back)
    | none => (text, [])
  if rest.isEmpty then
    .error (.wrongCount .updateValue (.exactly 2) (if element.isEmpty then 0 else 1))
  else do
    let element ← argument element
    let value ← assignment rest
    return .updateValue element value

/-- Reads the arguments of a command. -/
def command (opcode : Opcode) (text : List Char) : Except Fault Command :=
  match opcode with
  | .addInstance => do
    match ← arguments text with
    | [] => return .complete .clearInstances
    | [id, name] => return .complete (.addInstance id name)
    | others => throw (.wrongCount opcode .noneOrTwo others.length)
  | .removeInstance => do
    match ← arguments text with
    | [name] => return .complete (.removeInstance name)
    | others => throw (.wrongCount opcode (.exactly 1) others.length)
  | .setValues => do
    match ← arguments text with
    | [element] => return .header .set element
    | others => throw (.wrongCount opcode (.exactly 1) others.length)
  | .updateValues => do
    match ← arguments text with
    | [element] => return .header .update element
    | others => throw (.wrongCount opcode (.exactly 1) others.length)
  | .updateValue => (updateValue text).map .complete
  | .deleteValue => do
    match ← arguments text with
    | [element, control] => return .complete (.deleteValue element control)
    | others => throw (.wrongCount opcode (.exactly 2) others.length)
  | .connect => do
    match ← arguments text with
    | [sink, source] => return .complete (.connect sink source)
    | others => throw (.wrongCount opcode (.exactly 2) others.length)
  | .disconnect => do
    match ← arguments text with
    | [] => return .complete (.disconnect "" "")
    | [origin] => return .complete (.disconnect (endpoint origin) "")
    | [origin, destination] =>
      return .complete (.disconnect (endpoint origin) (endpoint destination))
    | others => throw (.wrongCount opcode (.upTo 2) others.length)

end Patchbay.Script
