import Patchbay.Number.Shortest

/-!
# Layouts of numbers

The digits of a number are the same wherever it is shown; what differs is how they are laid out:
from which size on a power of ten is written, whether a whole number keeps a decimal place, and
what stands for the values without digits.  A layout holds these decisions, and this module holds
the three layouts in use: for values and messages, for fix point values, and for JSON.
-/

namespace Patchbay

/-- How the digits of a number are laid out. -/
structure Layout where
  /-- The powers of ten of the first digit for which all places are written out. -/
  positional : Int → Bool
  /-- Whether a whole number is written with one decimal place. -/
  keepsPlace : Bool
  /-- What stands before the digits of an exponent that is not negative. -/
  exponentSign : String
  /-- Which of two equally near decimals is shown. -/
  tie : Decimal.Tie
  /-- The text of a value that is no number. -/
  notANumber : String
  /-- The text of an infinity, without its sign. -/
  infinite : Bool → String

namespace Layout

/-- Values and messages: places are written out from 0.0001 up to below 10 ^ 16. -/
def value : Layout where
  positional x := -4 ≤ x && x < 16
  keepsPlace := true
  exponentSign := ""
  tie := .up
  notANumber := "NaN"
  infinite negative := if negative then "-inf" else "inf"

/-- Fix point values: all places are written out and a whole number has none behind the point. -/
def plain : Layout where
  positional _ := true
  keepsPlace := false
  exponentSign := ""
  tie := .up
  notANumber := "NaN"
  infinite negative := if negative then "-inf" else "inf"

/-- JSON: places are written out from 0.00001 up to below 10 ^ 16, an exponent has a sign, and
only finite numbers have a text. -/
def json : Layout where
  positional x := -5 ≤ x && x < 16
  keepsPlace := true
  exponentSign := "+"
  tie := .even
  notANumber := "null"
  infinite _ := "null"

/-- The digits of a coefficient without the zeros at its end. -/
def significantDigits (coefficient : Nat) : List Char :=
  ((Nat.toDigits 10 coefficient).reverse.dropWhile (· == '0')).reverse

/-- All places of the number whose digits begin at the place `10 ^ first`. -/
def placesText (keepsPlace : Bool) (digits : List Char) (first : Int) : List Char :=
  if first < 0 then
    ['0', '.'] ++ List.replicate (-first - 1).toNat '0' ++ digits
  else
    let whole := first.toNat + 1
    if digits.length ≤ whole then
      digits ++ List.replicate (whole - digits.length) '0' ++
        (if keepsPlace then ['.', '0'] else [])
    else digits.take whole ++ ['.'] ++ digits.drop whole

/-- The digits with a point after the first of them and the power of ten. -/
def exponentText (exponentSign : String) (digits : List Char) (first : Int) : List Char :=
  let fraction :=
    match digits.drop 1 with
    | [] => []
    | others => '.' :: others
  let sign := if first < 0 then ['-'] else exponentSign.toList
  digits.take 1 ++ fraction ++ ['e'] ++ sign ++ Nat.toDigits 10 first.natAbs

/-- The text of a decimal without its sign. -/
def decimalText (layout : Layout) (d : Decimal) : List Char :=
  if d.coefficient == 0 then if layout.keepsPlace then ['0', '.', '0'] else ['0']
  else
    let first := d.exponent + (Nat.toDigits 10 d.coefficient).length - 1
    let digits := significantDigits d.coefficient
    if layout.positional first then placesText layout.keepsPlace digits first
    else exponentText layout.exponentSign digits first

/-- The text of a number. -/
def text (layout : Layout) (v : Binary64) : String :=
  if v.isNaN then layout.notANumber
  else if v.isInfinite then layout.infinite v.negative
  else
    let sign := if v.negative then ['-'] else []
    String.ofList (sign ++ layout.decimalText (Decimal.shortest layout.tie v))

end Layout

end Patchbay
