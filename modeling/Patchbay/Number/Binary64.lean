/-!
# Binary floating point numbers of 64 bits

A number is its bit pattern: a sign, eleven bits of exponent and fifty-two bits of fraction.  The
finite patterns stand for `± significand · 2 ^ exponent`, so exact arithmetic on them is integer
arithmetic, and the only place where anything is rounded is `ofRatio`, which takes a quotient of
natural numbers to the nearest pattern, a tie going to the even one.

The patterns of the magnitudes are ordered like the magnitudes, so numbers are compared by a key
that is an integer.
-/

namespace Patchbay

/-- A double precision number, given by its bit pattern. -/
structure Binary64 where
  bits : UInt64
deriving DecidableEq, Repr

/-- The quotient rounded to the nearest natural number, a tie to the even one. -/
def roundHalfEven (numerator denominator : Nat) : Nat :=
  let quotient := numerator / denominator
  let remainder := numerator % denominator
  if 2 * remainder < denominator then quotient
  else if denominator < 2 * remainder then quotient + 1
  else if quotient % 2 == 0 then quotient
  else quotient + 1

/-- The quotient rounded to the nearest natural number, a tie to the greater one. -/
def roundHalfUp (numerator denominator : Nat) : Nat :=
  (2 * numerator + denominator) / (2 * denominator)

/-- The greatest integer `e` with `2 ^ e ≤ numerator / denominator`, for positive numbers. -/
def floorLog2 (numerator denominator : Nat) : Int :=
  let estimate : Int := (numerator.log2 : Int) - denominator.log2
  let reached :=
    if 0 ≤ estimate then denominator * Nat.pow 2 estimate.toNat ≤ numerator
    else denominator ≤ numerator * Nat.pow 2 (-estimate).toNat
  if reached then estimate else estimate - 1

namespace Binary64

/-- The place value of the sign bit. -/
def signPlace : Nat := Nat.pow 2 63

/-- The number of fractions that share an exponent. -/
def fractionCount : Nat := Nat.pow 2 52

/-- The magnitude of infinity: every greater magnitude is not a number. -/
def infinityMagnitude : Nat := 2047 * fractionCount

/-- The bit pattern without its sign. -/
def magnitude (v : Binary64) : Nat :=
  v.bits.toNat % signPlace

/-- Whether the sign bit is set. -/
def negative (v : Binary64) : Bool :=
  signPlace ≤ v.bits.toNat

/-- The number with the given sign bit and magnitude pattern. -/
def ofMagnitude (negative : Bool) (magnitude : Nat) : Binary64 :=
  ⟨UInt64.ofNat (if negative then magnitude + signPlace else magnitude)⟩

/-- Whether the pattern stands for no number. -/
def isNaN (v : Binary64) : Bool :=
  infinityMagnitude < v.magnitude

/-- Whether the pattern is one of the two infinities. -/
def isInfinite (v : Binary64) : Bool :=
  v.magnitude == infinityMagnitude

/-- The biased exponent. -/
def exponentField (v : Binary64) : Nat :=
  v.magnitude / fractionCount

/-- The digits of a finite number: `significand · 2 ^ exponent` is its magnitude. -/
def significand (v : Binary64) : Nat :=
  if v.exponentField == 0 then v.magnitude % fractionCount
  else v.magnitude % fractionCount + fractionCount

/-- The place of the last digit of a finite number. -/
def exponent (v : Binary64) : Int :=
  (max v.exponentField 1 : Nat) - 1075

/-- Infinity of the given sign. -/
def infinity (negative : Bool) : Binary64 :=
  ofMagnitude negative infinityMagnitude

/-- The pattern written for no number, with the given sign bit. -/
def nan (negative : Bool) : Binary64 :=
  ofMagnitude negative (infinityMagnitude + Nat.pow 2 51)

/-- Zero of the given sign. -/
def zero (negative : Bool) : Binary64 :=
  ofMagnitude negative 0

/-- The nearest number to `± numerator / denominator`, a tie going to the even pattern; beyond
the greatest finite number, infinity.

The last place is chosen so that the rounded significand has fifty-three digits, or fewer at the
least exponent.  A significand that rounds up to fifty-four digits carries into the exponent,
which is why the pattern is a sum. -/
def ofRatio (negative : Bool) (numerator denominator : Nat) : Binary64 :=
  if numerator == 0 then zero negative
  else
    let place := max (-1074) (floorLog2 numerator denominator - 52)
    let digits :=
      if 0 ≤ place then roundHalfEven numerator (denominator * Nat.pow 2 place.toNat)
      else roundHalfEven (numerator * Nat.pow 2 (-place).toNat) denominator
    ofMagnitude negative (min infinityMagnitude ((place + 1074).toNat * fractionCount + digits))

/-- The integer by which numbers are ordered; the two zeros share it. -/
def orderKey (v : Binary64) : Int :=
  if v.negative then -(v.magnitude : Int) else v.magnitude

/-- Whether one number is less than another; never so when one of them is no number. -/
def lessThan (v w : Binary64) : Bool :=
  !v.isNaN && !w.isNaN && v.orderKey < w.orderKey

end Binary64

end Patchbay
