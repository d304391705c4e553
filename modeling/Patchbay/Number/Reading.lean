import Patchbay.Number.Binary64

/-!
# Reading numbers

An integer is an optional sign and one or more decimal digits.  It is read from left to right into
128 bits, and reading stops at the first character that is no digit or at the digit that leaves
the range, whichever comes first.

A floating point number is an optional sign before one of the words `inf`, `infinity` and `nan` in
any case, or before digits with an optional point and an optional exponent.  Its exact value is
rounded once, so the result is the nearest double.
-/

namespace Patchbay

namespace Text

/-- The value of a decimal digit. -/
def digit? (c : Char) : Option Nat :=
  if c.isDigit then some (c.toNat - '0'.toNat) else none

/-- The sign at the front of a text, true for a minus, and what follows it. -/
def takeSign : List Char → Bool × List Char
  | '-' :: rest => (true, rest)
  | '+' :: rest => (false, rest)
  | text => (false, text)

end Text

/-- What reading an integer finds. -/
inductive IntegerReading where
  | number (n : Int)
  | overflow
  | underflow
  | malformed
deriving DecidableEq, Repr

namespace IntegerReading

/-- The greatest magnitude that 128 bits hold with the given sign. -/
def magnitudeLimit (negative : Bool) : Nat :=
  if negative then Nat.pow 2 127 else Nat.pow 2 127 - 1

/-- Reads digits after those that make up `magnitude`. -/
def digits (negative : Bool) (magnitude : Nat) : List Char → IntegerReading
  | [] => .number (if negative then -(magnitude : Int) else magnitude)
  | c :: rest =>
    match Text.digit? c with
    | none => .malformed
    | some d =>
      let next := 10 * magnitude + d
      if next ≤ magnitudeLimit negative then digits negative next rest
      else if negative then .underflow
      else .overflow

/-- Reads a whole text as an integer. -/
def ofText (text : List Char) : IntegerReading :=
  match Text.takeSign text with
  | (_, []) => .malformed
  | (negative, rest) => digits negative 0 rest

end IntegerReading

namespace Binary64

/-- The nearest number to `± coefficient · 10 ^ exponent`.  With more than 310 places before the
point the value is beyond every finite number, and with more than 330 zeros behind it it is nearer
to zero than to any other number. -/
def ofDecimal (negative : Bool) (coefficient : Nat) (exponent : Int) : Binary64 :=
  if coefficient == 0 then zero negative
  else
    let size := exponent + (Nat.toDigits 10 coefficient).length
    if 310 < size then infinity negative
    else if size < -330 then zero negative
    else if 0 ≤ exponent then ofRatio negative (coefficient * Nat.pow 10 exponent.toNat) 1
    else ofRatio negative coefficient (Nat.pow 10 (-exponent).toNat)

/-- Reads an exponent after its mark: an optional sign and one or more digits. -/
def exponentOfText? (text : List Char) : Option Int :=
  let (negative, digits) := Text.takeSign text
  if digits.isEmpty || !digits.all Char.isDigit then none
  else
    let n := Nat.ofDigitChars 10 digits 0
    some (if negative then -(n : Int) else n)

/-- Reads the digits of a number: a whole part, an optional point with a fraction, at least one
digit in the two together, and an optional exponent. -/
def ofDigits? (negative : Bool) (text : List Char) : Option Binary64 :=
  let whole := text.takeWhile Char.isDigit
  let afterWhole := text.dropWhile Char.isDigit
  let (fraction, rest) :=
    match afterWhole with
    | '.' :: more => (more.takeWhile Char.isDigit, more.dropWhile Char.isDigit)
    | other => ([], other)
  if whole.isEmpty && fraction.isEmpty then none
  else
    let exponent? :=
      match rest with
      | [] => some 0
      | mark :: more => if mark == 'e' || mark == 'E' then exponentOfText? more else none
    exponent?.map fun exponent =>
      ofDecimal negative (Nat.ofDigitChars 10 (whole ++ fraction) 0)
        (exponent - fraction.length)

/-- Reads a whole text as a floating point number. -/
def ofText? (text : List Char) : Option Binary64 :=
  let (negative, rest) := Text.takeSign text
  let word := rest.map Char.toLower
  if word == "inf".toList || word == "infinity".toList then some (infinity negative)
  else if word == "nan".toList then some (nan negative)
  else ofDigits? negative rest

end Binary64

end Patchbay
