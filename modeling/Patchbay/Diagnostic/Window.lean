import Patchbay.Diagnostic.Columns
import Patchbay.Diagnostic.Row

/-!
# The part of a line in sight

A row has room for a number of columns.  Of a line that begins with many blanks or is longer than
the room for it, a part is shown, and dots stand for the rest.  The part is chosen so that the
marks are in sight, and with them, where there is room, the label and the beginning of the line.
-/

namespace Patchbay.Diagnostic

/-- The columns of a row. -/
def rowColumns : Nat := 140

/-- The columns on either side of the marks that are kept in sight with them. -/
def clearance : Nat := 6

/-- The measures of an annotated line. -/
structure Measure where
  /-- The blanks in front of the line. -/
  blanks : Nat
  /-- The column of the first mark. -/
  start : Nat
  /-- The column behind the last mark. -/
  stop : Nat
  /-- The columns of the label with the blank before it. -/
  label : Nat
  /-- The columns of the line. -/
  length : Nat
deriving DecidableEq, Repr

namespace Measure

/-- Where the sight on the marks begins. -/
def marksLeft (measure : Measure) : Nat := measure.start - clearance

/-- Where the sight on the marks ends. -/
def marksRight (measure : Measure) : Nat := measure.stop + clearance

/-- Where the sight on the label ends. -/
def labelRight (measure : Measure) : Nat := measure.stop + measure.label + clearance

end Measure

/-- The columns of a line that are in sight. -/
structure Window where
  /-- The columns that there is room for. -/
  room : Nat
  /-- The first column in sight. -/
  left : Nat
  /-- The column behind the last one in sight. -/
  right : Nat
deriving DecidableEq, Repr

namespace Window

/-- As many columns from `left` on as there is room for. -/
def filling (room left : Nat) : Window :=
  ⟨room, left, left + room⟩

/-- The window on a line.  Of a deep indentation sixteen columns are kept.  If the line is longer
than the room, its beginning is shown if the label is in sight then; else the marks and the label
in the middle, if there is room for both; else the marks, with two fifths of the free room on their
left; else all of the marks. -/
def ofMeasure (room : Nat) (measure : Measure) : Window :=
  let indentation := measure.blanks - clearance
  let left := if 20 < indentation then indentation - 16 else 0
  let right := max measure.length left
  let label := measure.labelRight - measure.marksLeft
  let marks := measure.marksRight - measure.marksLeft
  if right - left ≤ room then ⟨room, left, right⟩
  else if measure.labelRight - indentation ≤ room then filling room indentation
  else if label ≤ room then filling room (measure.marksLeft - (room - label) / 2)
  else if marks ≤ room then filling room (measure.marksLeft - (room - marks) / 5 * 2)
  else ⟨room, measure.marksLeft, measure.marksRight⟩

/-- The first column in sight of a line with the given columns. -/
def leftWithin (window : Window) (length : Nat) : Nat :=
  min window.left length

/-- The column behind the last one in sight of a line with the given columns. -/
def rightWithin (window : Window) (length : Nat) : Nat :=
  if length - window.left ≤ window.room then length else min window.right length

/-- Whether something is left out on the left. -/
def cutsLeft (window : Window) : Bool :=
  0 < window.left

/-- Whether something is left out on the right of a line with the given columns. -/
def cutsRight (window : Window) (length : Nat) : Bool :=
  window.rightWithin length < length

end Window

/-- A shown text through a window: the part of it in sight, and the columns before that part. -/
structure View where
  text : List Char
  before : Nat
deriving DecidableEq, Repr

/-- Looks at a shown text through a window. -/
def Window.view (window : Window) (text : List Char) : View :=
  let length := width text
  let left := window.leftWithin length
  let (hidden, rest) := splitColumns left text
  ⟨takeColumns (window.rightWithin length - left) rest, max left (width hidden)⟩

/-- Puts a view of a text with the given columns at a place of a row.  Dots take the place of the
first and the last characters where something is left out. -/
def View.draw (view : View) (window : Window) (length place : Nat) (row : Row) : Row :=
  let (covered, text) := if window.cutsLeft then splitColumns dots.length view.text
    else ([], view.text)
  let row := if window.cutsLeft then row.put place .margin dots else row
  let start := place + width covered
  let row := row.put start .plain text
  if window.cutsRight length then
    let last := (splitColumns dots.length view.text.reverse).1
    row.put (start + text.length - last.length) .margin dots
  else row

end Patchbay.Diagnostic
