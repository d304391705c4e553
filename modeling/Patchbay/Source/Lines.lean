import Patchbay.Text.Utf8

/-!
# Physical lines

A script is cut into lines at each line feed.  A line keeps its line feed while it is read; what is
parsed is the line without it and without one carriage return before it.  A last line without a
line feed counts, and an empty rest does not.
-/

namespace Patchbay.Source

/-- The byte that ends a line. -/
def lineFeed : UInt8 := 0x0A

/-- The byte that may stand before the end of a line. -/
def carriageReturn : UInt8 := 0x0D

/-- The lines of a script with their line feeds. -/
def rawLines : Bytes → List Bytes
  | [] => []
  | b :: rest =>
    if b == lineFeed then [b] :: rawLines rest
    else
      match rawLines rest with
      | [] => [[b]]
      | line :: others => (b :: line) :: others

/-- A line without one carriage return at its end. -/
def withoutReturn (line : Bytes) : Bytes :=
  if line.getLast? == some carriageReturn then line.dropLast else line

/-- A raw line without what ends it. -/
def content (raw : Bytes) : Bytes :=
  if raw.getLast? == some lineFeed then withoutReturn raw.dropLast else raw

/-- The lines of a script as they are parsed. -/
def lines (script : Bytes) : List Bytes :=
  (rawLines script).map content

theorem flatten_rawLines (script : Bytes) : (rawLines script).flatten = script := by
  induction script with
  | nil => rfl
  | cons b rest ih =>
    unfold rawLines
    split
    · simp [ih]
    · split
      · next heq => rw [heq] at ih; simpa using ih
      · next heq => rw [heq] at ih; simpa using ih

end Patchbay.Source
