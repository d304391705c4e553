import Patchbay.Text.Columns

/-!
# Columns of shown text

An annotated line is shown so that marks can stand below its characters.  A tab is shown as four
spaces, and characters that would move the cursor are shown as a picture of themselves.  A text is
cut between characters only, so a cut through a wide character takes or leaves the whole of it.
-/

namespace Patchbay.Diagnostic

/-- Whether a character changes the direction of the text after it. -/
def changesDirection (c : Char) : Bool :=
  (0x202A ≤ c.toNat && c.toNat ≤ 0x202E) || (0x2066 ≤ c.toNat && c.toNat ≤ 0x2069)

/-- How a character is shown: control characters by their pictures, a joiner not at all, and a
change of direction as a replacement. -/
def shown (c : Char) : List Char :=
  if c == '\t' then [' ', ' ', ' ', ' ']
  else if c.toNat < 0x20 then [Char.ofNat (0x2400 + c.toNat)]
  else if c.toNat == 0x7F then [Char.ofNat 0x2421]
  else if c.toNat == 0x200D then []
  else if changesDirection c then [Char.ofNat 0xFFFD]
  else [c]

/-- A text as it is shown. -/
def shownText (text : List Char) : List Char :=
  text.flatMap shown

/-- The columns of a text that is shown as it is. -/
def width (text : List Char) : Nat :=
  text.foldr (fun c sum => Text.columnsOf c + sum) 0

/-- The columns that a text takes when it is shown. -/
def columns (text : List Char) : Nat :=
  width (shownText text)

/-- The shortest beginning of a text that takes at least the given columns, and the rest. -/
def splitColumns : Nat → List Char → List Char × List Char
  | _, [] => ([], [])
  | 0, text => ([], text)
  | count, c :: rest =>
    let (front, back) := splitColumns (count - Text.columnsOf c) rest
    (c :: front, back)

/-- The longest beginning of a text that takes at most the given columns. -/
def takeColumns : Nat → List Char → List Char
  | _, [] => []
  | count, c :: rest =>
    if Text.columnsOf c ≤ count then c :: takeColumns (count - Text.columnsOf c) rest else []

end Patchbay.Diagnostic
