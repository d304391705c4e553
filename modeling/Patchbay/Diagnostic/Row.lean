import Patchbay.Palette

/-!
# Rows

A diagnostic is drawn row by row.  A row is a list of cells, one character in its style each, and
a text can be put at any place of it.  Neighbours in one style are sent to a terminal together.
-/

namespace Patchbay.Diagnostic

/-- A character in its style. -/
structure Cell where
  style : Style
  char : Char
deriving DecidableEq, Repr

/-- The cells of a row, from the left. -/
abbrev Row := List Cell

/-- The dots that stand for what is left out. -/
def dots : List Char := ['.', '.', '.']

namespace Row

/-- The cells of a text in one style. -/
def ofText (style : Style) (text : List Char) : Row :=
  text.map (Cell.mk style)

/-- Cells that show nothing. -/
def blanks (count : Nat) : Row :=
  List.replicate count ⟨.plain, ' '⟩

/-- Puts a text at a place of a row, over what stood there.  A row that does not reach the place is
filled up with blanks; where there is no text to put, it stays as it is. -/
def put (row : Row) (place : Nat) (style : Style) (text : List Char) : Row :=
  if text.isEmpty then row
  else
    row.take place ++ blanks (place - row.length) ++ ofText style text ++
      row.drop (place + text.length)

/-- Replaces the cells from `start` up to `stop` by dots.  A row that ends before is left alone. -/
def elide (row : Row) (start stop : Nat) : Row :=
  if start = stop || row.length < start || row.length < stop then row
  else row.take start ++ ofText .margin dots ++ row.drop stop

/-- The segment of cells in one style. -/
def segment? : List Cell → Option Segment
  | [] => none
  | first :: rest => some ⟨first.style, String.ofList (first.char :: rest.map Cell.char)⟩

/-- A row as segments: neighbours in one style are in one segment. -/
def segments (row : Row) : List Segment :=
  (row.splitBy (fun left right => left.style == right.style)).filterMap segment?

end Row

end Patchbay.Diagnostic
