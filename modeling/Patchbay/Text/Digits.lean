/-!
# Numbers as digits

The columns of a message or of a listing are filled up on the left: line numbers with spaces,
offsets with zeros.
-/

namespace Patchbay.Text

/-- The lowercase hexadecimal digits of a number, without leading zeros. -/
def hexadecimal (n : Nat) : String :=
  String.ofList (Nat.toDigits 16 n)

/-- A text filled up on the left with `fill` until it has at least `width` characters. -/
def padLeft (fill : Char) (width : Nat) (text : List Char) : List Char :=
  List.replicate (width - text.length) fill ++ text

/-- The hexadecimal digits of a number, filled up with zeros to `width`. -/
def paddedHexadecimal (width n : Nat) : String :=
  String.ofList (padLeft '0' width (Nat.toDigits 16 n))

/-- The decimal digits of a number, filled up with spaces to `width`. -/
def paddedDecimal (width n : Nat) : String :=
  String.ofList (padLeft ' ' width (Nat.toDigits 10 n))

end Patchbay.Text
