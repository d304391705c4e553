import Patchbay.Diagnostic.Window
import Patchbay.Script.Fault
import Patchbay.Text.Blank
import Patchbay.Text.Quoted
import Patchbay.Text.Utf8

/-!
# Annotated lines

An error in a script is shown with the line it is on:

    error: not enough indentation
     --> mixer:3:2
      |
    3 |  b = 2
      |  ^^^^^ not enough indentation

The marks cover the line without the blanks around it.  Of a line with many blanks in front, or of
a long line, a part is shown.
-/

namespace Patchbay.Diagnostic

/-- A range of bytes of a line, without its end. -/
structure Span where
  start : Nat
  stop : Nat
deriving DecidableEq, Repr

/-- The number of bytes of a text. -/
def byteLength (text : List Char) : Nat :=
  (Utf8.encode text).length

/-- The bytes of a line that are marked: those between the blanks around the line, or the first
byte of a blank line. -/
def span (line : List Char) : Span :=
  let content := Text.trimEnd line
  let start := byteLength content - byteLength (Text.trimStart content)
  if start < byteLength content then ⟨start, byteLength content⟩
  else ⟨start, min (start + 1) (byteLength line)⟩

/-- The characters of a line that start before the given byte, and those that do not. -/
def splitAtByte : Nat → List Char → List Char × List Char
  | _, [] => ([], [])
  | 0, text => ([], text)
  | offset, c :: rest =>
    let (front, back) := splitAtByte (offset - byteLength [c]) rest
    (c :: front, back)

/-- The blanks in front of a line, a tab counting four times; a blank line has none. -/
def margin (line : List Char) : Nat :=
  if line.all Text.isBlank then 0
  else (line.takeWhile Text.isBlank).foldr (fun c sum => (if c == '\t' then 4 else 1) + sum) 0

/-- A line without the line break at its end. -/
def withoutBreak (line : List Char) : List Char :=
  match line.reverse with
  | '\n' :: '\r' :: rest => rest.reverse
  | '\n' :: rest => rest.reverse
  | _ => line

/-- The title of an error.  Further lines of the message are indented to the first. -/
def titleRows (message : List Char) : List Row :=
  let head := Row.ofText .alarm "error".toList
  let parts := (Text.pieces (· == '\n') message).map shownText
  match parts with
  | [] => [head]
  | first :: others =>
    (head ++ Row.ofText .bold (": ".toList ++ first)) ::
      others.map (fun part => Row.blanks 7 ++ Row.ofText .bold part)

/-- The measures of a line with the given marked part and label. -/
def measureOf (line before marked label : List Char) : Measure :=
  let start := columns before
  { blanks := margin line
    start
    stop := start + max 1 (columns marked)
    label := columns label + 1
    length := columns line }

/-- A line behind its number, and the marks and the label below it.  Marks over more than twice the
room are shown by their ends. -/
def annotatedRows (number line before marked label : List Char) : List Row :=
  let place := number.length + 3
  let room := rowColumns - place
  let measure := measureOf line before marked label
  let window := Window.ofMeasure room measure
  let view := window.view (shownText line)
  let rule := Row.put [] (number.length + 1) .margin ['|']
  let source := view.draw window measure.length place (rule.put 0 .margin number)
  let count := measure.stop - measure.start
  let start := place + measure.start - view.before
  let stop := place + measure.stop - view.before
  let underlined := rule.put start .alarm (List.replicate count '^')
  let marks := underlined.put (stop + 1) .alarm label
  if 2 * room < count && 10 < count then
    let kept := max (room / 3) 5
    [source, marks].map (Row.elide · (start + kept) (stop - kept))
  else [source, marks]

/-- The rows of an annotated error. -/
def rows (error : ScriptError) (line : List Char) (path : Option String) : List Row :=
  let message := error.fault.message.toList
  let number := (toString error.line).toList
  let range := span line
  let (before, rest) := splitAtByte range.start line
  let marked := (splitAtByte (range.stop - range.start) rest).1
  let position := ":" ++ toString error.line ++ ":" ++ toString (before.length + 1)
  let places := path.toList.map fun path =>
    (Row.put [] number.length .margin "--> ".toList) ++ Row.ofText .plain (path ++ position).toList
  titleRows message ++ places ++ [Row.put [] (number.length + 1) .margin ['|']] ++
    annotatedRows number (withoutBreak line) before marked message

/-- An error with the line it is on. -/
def render (color : Bool) (error : ScriptError) (line : List Char) (path : Option String) :
    String :=
  "\n".intercalate ((rows error line path).map (fun row => Segment.render color row.segments))

/-! ## Lines that cannot be cut -/

/-- A cut of a line that would split one of its characters. -/
structure SplitCharacter where
  /-- The number of bytes in front of the cut. -/
  offset : Nat
  /-- The number of bytes in front of the character. -/
  start : Nat
  character : Char
deriving DecidableEq, Repr

/-- What is said when the part of a line in front of a cut cannot be taken. -/
def SplitCharacter.message (fault : SplitCharacter) : String :=
  let stop := fault.start + byteLength [fault.character]
  "end byte index " ++ toString fault.offset ++ " is not a char boundary; it is inside " ++
    Text.quotedChar fault.character ++ " (bytes " ++ toString fault.start ++ ".." ++
      toString stop ++ " of string)"

/-- The character that a cut at the given offset splits, if it splits one.  The text is what
follows the first `start` bytes of the line. -/
def splitCharacter? (offset : Nat) : Nat → List Char → Option SplitCharacter
  | _, [] => none
  | start, c :: rest =>
    let next := start + byteLength [c]
    if offset ≤ start then none
    else if offset < next then some ⟨offset, start, c⟩
    else splitCharacter? offset next rest

/-- Why a range of bytes cannot be cut out of a line. -/
def Span.fault? (range : Span) (line : List Char) : Option SplitCharacter :=
  (splitCharacter? range.start 0 line).or (splitCharacter? range.stop 0 line)

/-- An error with a line that need not be the one it is on.  The line has to be cut at both ends of
the marks. -/
def annotate (color : Bool) (error : ScriptError) (line : List Char) (path : Option String) :
    Except SplitCharacter String :=
  match (span line).fault? line with
  | some fault => .error fault
  | none => .ok (render color error line path)

end Patchbay.Diagnostic
