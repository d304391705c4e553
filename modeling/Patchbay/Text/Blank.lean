/-!
# Blanks, words and pieces

A script is laid out with blanks.  A blank is a character of the Unicode property White_Space;
the information separators U+001C to U+001F, the zero-width space and the byte-order mark are
not blanks.  This module fixes the class and the operations that depend on it: trimming a text
on either side, and cutting it into pieces at a separator or into words at runs of blanks.

Texts are lists of characters here, so every operation is a list operation.
-/

namespace Patchbay.Text

/-- The characters with the Unicode property White_Space. -/
def isBlank (c : Char) : Bool :=
  let n := c.toNat
  (0x09 ≤ n && n ≤ 0x0D) || n == 0x20 || n == 0x85 || n == 0xA0 || n == 0x1680 ||
    (0x2000 ≤ n && n ≤ 0x200A) || n == 0x2028 || n == 0x2029 || n == 0x202F || n == 0x205F ||
    n == 0x3000

/-- The text without its leading blanks. -/
def trimStart (text : List Char) : List Char :=
  text.dropWhile isBlank

/-- The text without its trailing blanks. -/
def trimEnd (text : List Char) : List Char :=
  (text.reverse.dropWhile isBlank).reverse

/-- The text without the blanks around it. -/
def trim (text : List Char) : List Char :=
  trimStart (trimEnd text)

/-- The pieces of a list between its separators: one more than there are separators, so the
empty list has one empty piece. -/
def pieces {α : Type} (separates : α → Bool) : List α → List (List α)
  | [] => [[]]
  | a :: rest =>
    if separates a then [] :: pieces separates rest
    else
      match pieces separates rest with
      | [] => [[a]]
      | piece :: others => (a :: piece) :: others

/-- The maximal runs of characters that are not blank. -/
def words (text : List Char) : List (List Char) :=
  (pieces isBlank text).filter (fun word => !word.isEmpty)

/-- The text before the first blank and the text after it, or nothing when there is no blank. -/
def splitAtBlank? (text : List Char) : Option (List Char × List Char) :=
  match text.dropWhile (fun c => !isBlank c) with
  | [] => none
  | _ :: back => some (text.takeWhile (fun c => !isBlank c), back)

/-- The number of spaces (U+0020 only) a text begins with. -/
def leadingSpaces (text : List Char) : Nat :=
  (text.takeWhile (· == ' ')).length

theorem pieces_ne_nil {α : Type} (separates : α → Bool) (list : List α) :
    pieces separates list ≠ [] := by
  cases list with
  | nil => simp [pieces]
  | cons a rest =>
    unfold pieces
    split
    · simp
    · split <;> simp

end Patchbay.Text
