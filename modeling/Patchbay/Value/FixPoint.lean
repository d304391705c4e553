import Patchbay.Number.Layout
import Patchbay.Value.Rejection

/-!
# Fix point numbers

A fix point number is packed into sixteen bits:

    15 14  | 13   | 12 .......... 4 | 3 ...... 0
    unused | sign | whole part (9)  | sixteenths

The magnitude is unsigned and bit 13 carries the sign, so the range is symmetric: from -511.9375
to 511.9375 in steps of 1/16.

A double precision number is taken over if its fractional part, counted in ten-thousandths in
double precision and rounded to a whole number of them, is a multiple of 625.  A fraction that
rounds up to a whole unit carries into the whole part.
-/

namespace Patchbay

/-- A packed fix point number. -/
structure FixPoint where
  bits : UInt16
deriving DecidableEq, Repr

/-- The nearest natural number to a finite number that is not negative, a tie to the greater. -/
def Binary64.roundedHalfUp (v : Binary64) : Nat :=
  if 0 ≤ v.exponent then v.significand * Nat.pow 2 v.exponent.toNat
  else roundHalfUp v.significand (Nat.pow 2 (-v.exponent).toNat)

namespace FixPoint

/-- The place value of the sign bit. -/
def signPlace : Nat := Nat.pow 2 13

/-- Whether the sign bit is set. -/
def negative (p : FixPoint) : Bool :=
  p.bits.toNat / signPlace % 2 == 1

/-- The whole part of the magnitude. -/
def whole (p : FixPoint) : Nat :=
  p.bits.toNat / 16 % 512

/-- The fractional part of the magnitude, in sixteenths. -/
def sixteenths (p : FixPoint) : Nat :=
  p.bits.toNat % 16

/-- The same number in double precision; every fix point number has one. -/
def toBinary64 (p : FixPoint) : Binary64 :=
  Binary64.ofRatio p.negative (p.whole * 16 + p.sixteenths) 16

/-- The greatest fix point number, 511.9375, in double precision. -/
def greatest : Binary64 := Binary64.ofRatio false 8191 16

/-- The least fix point number, -511.9375, in double precision. -/
def least : Binary64 := Binary64.ofRatio true 8191 16

/-- The fractional part of a number below 512, counted in ten-thousandths. -/
def tenThousandths (v : Binary64) : Nat :=
  let unit := Nat.pow 2 (-v.exponent).toNat
  (Binary64.ofRatio false (v.significand % unit * 10000) unit).roundedHalfUp

/-- The bits of a number below 512 whose fraction is `sixteenths` sixteenths. -/
def pack (v : Binary64) (sixteenths : Nat) : Nat :=
  let whole := v.significand / Nat.pow 2 (-v.exponent).toNat
  let sign := if v.lessThan (Binary64.zero false) then signPlace else 0
  whole * 16 + sixteenths + sign

/-- The fix point number for a double precision number.  The exponents of the numbers in range are
negative, which is what the whole and the fractional part are taken by. -/
def ofBinary64 (v : Binary64) : Except Rejection FixPoint :=
  let shown := Layout.value.text v
  if v.isNaN then .error (.notANumber shown)
  else if v.lessThan least then .error (.belowRange shown (Layout.value.text least))
  else if greatest.lessThan v then .error (.aboveRange shown (Layout.value.text greatest))
  else if tenThousandths v % 625 == 0 then
    .ok ⟨UInt16.ofNat (pack v (tenThousandths v / 625))⟩
  else .error (.offGrid shown)

/-- The text of a fix point number. -/
def text (p : FixPoint) : String :=
  Layout.plain.text p.toBinary64

end FixPoint

end Patchbay
