/-!
# Coloured text

Output for a terminal is a sequence of segments, each in one style.  A style is a list of terminal
codes; the segment is enclosed between these codes and a reset.  Without colours, only the texts
of the segments are written, so both forms say the same.
-/

namespace Patchbay

/-- The look of a piece of text. -/
inductive Style where
  | plain
  /-- Opcodes. -/
  | blue
  /-- Names, strings and literals. -/
  | green
  /-- Offsets, counts and wildcards. -/
  | dim
  /-- Titles. -/
  | bold
  /-- What is wrong. -/
  | alarm
  /-- Line numbers and the rules around them. -/
  | margin
deriving DecidableEq, Repr

/-- A piece of text in one style. -/
structure Segment where
  style : Style
  text : String
deriving DecidableEq, Repr

/-- The terminal code with the given parameter. -/
def terminalCode (parameter : String) : String :=
  "\x1b[" ++ parameter ++ "m"

namespace Style

/-- The codes that switch a style on. -/
def codes : Style → List String
  | plain => []
  | blue => ["34"]
  | green => ["32"]
  | dim => ["2"]
  | bold => ["1"]
  | alarm => ["1", "91"]
  | margin => ["1", "94"]

end Style

namespace Segment

/-- A segment in no style. -/
def plain (text : String) : Segment := ⟨.plain, text⟩

/-- The segment as it is sent to a terminal. -/
def colored (segment : Segment) : String :=
  match segment.style with
  | .plain => segment.text
  | style => String.join (style.codes.map terminalCode) ++ segment.text ++ terminalCode "0"

/-- Segments in sequence, with or without colours. -/
def render (color : Bool) (segments : List Segment) : String :=
  String.join (segments.map (fun segment => if color then segment.colored else segment.text))

end Segment

end Patchbay
