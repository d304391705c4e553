import Patchbay.Instruction.Basic
import Patchbay.Script.Fault
import Patchbay.Value.Codec

/-!
# Literals and assignments in scripts

The value of an assignment is written in one of four forms:

1. an integer without a type, which is a signed integer of two bytes;
2. a text between two equal quotes, which is a string;
3. `True` or `False`;
4. the code of a type before parentheses, such as `D(2.5)`, which reads what is between them.

No text has two of these forms.
-/

namespace Patchbay.Script

/-- An optional sign and one or more digits. -/
def isBareInteger (text : List Char) : Bool :=
  let digits := (Text.takeSign text).2
  !digits.isEmpty && digits.all Char.isDigit

/-- The text between two equal quotes, double or single, at both ends. -/
def betweenQuotes? : List Char → Option (List Char)
  | [] => none
  | opening :: rest =>
    if (opening == '"' || opening == '\'') && rest.getLast? == some opening then
      some rest.dropLast
    else none

/-- The tag and the text between the parentheses of `code(text)`. -/
def tagged? : List Char → Option (Tag × List Char)
  | code :: '(' :: rest =>
    if rest.getLast? == some ')' then (Tag.ofCode? code).map (·, rest.dropLast) else none
  | _ => none

/-- The tag that a literal is read under, and the text that is read. -/
def form? (spec : List Char) : Option (Tag × List Char) :=
  if isBareInteger spec then some (Tag.bareInteger, spec)
  else
    match betweenQuotes? spec with
    | some inner => some (.string, inner)
    | none =>
      if spec == "True".toList || spec == "False".toList then some (.bool, spec)
      else tagged? spec

/-- Reads a literal; blanks around it are not allowed. -/
def literal (spec : List Char) : Except Fault TaggedValue :=
  match form? spec with
  | none => .error (.noLiteral (String.ofList spec))
  | some (tag, inner) => (tag.encode inner).mapError .rejected

/-- A letter or an underscore, then letters, digits and underscores, all ASCII. -/
def isName : List Char → Bool
  | [] => false
  | c :: rest => (c.isAlpha || c == '_') && rest.all (fun d => d.isAlphanum || d == '_')

/-- Reads `name = literal`; the text holds no other equals sign. -/
def assignment (text : List Char) : Except Fault Assignment :=
  match Text.pieces (· == '=') text with
  | [left, right] =>
    let name := Text.trim left
    if isName name then
      (literal (Text.trim right)).map (Assignment.mk (String.ofList name))
    else .error (.noIdentifier (String.ofList name))
  | _ => .error .noAssignment

end Patchbay.Script
