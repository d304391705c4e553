import Patchbay.Number.Binary64

/-!
# The shortest decimal of a binary number

A decimal stands for a binary number if it lies in the interval of reals that round to that
number; the ends belong to the interval when the significand is even.  Among the decimals that do,
the shortest are those on the coarsest grid `10 ^ grid` that has a point in the interval, and of
two such points the nearer to the number is taken.

On each grid only the two neighbours of the number matter, so the search compares integers: with
one common scale, the number is `4 · significand`, and the ends of the interval are two units away
(one unit below a power of two, where the numbers below are closer together).
-/

namespace Patchbay

/-- The decimal number `coefficient · 10 ^ exponent`. -/
structure Decimal where
  coefficient : Nat
  exponent : Int
deriving DecidableEq, Repr

namespace Decimal

/-- Which of two decimals that are equally near is taken. -/
inductive Tie where
  | up
  | even
deriving DecidableEq, Repr

/-- The reals that round to `value` quarters of the last place, in units of
`scaleUp / scaleDown`. -/
structure Interval where
  low : Nat
  value : Nat
  high : Nat
  closed : Bool
  scaleUp : Nat
  scaleDown : Nat
deriving Repr

/-- The interval of a finite number that is not zero, apart from its sign. -/
def Interval.of (v : Binary64) : Interval :=
  let m := v.significand
  let place := v.exponent - 2
  let narrowBelow := m == Binary64.fractionCount && 1 < v.exponentField
  { low := if narrowBelow then 4 * m - 1 else 4 * m - 2
    value := 4 * m
    high := 4 * m + 2
    closed := m % 2 == 0
    scaleUp := if 0 ≤ place then Nat.pow 2 place.toNat else 1
    scaleDown := if 0 ≤ place then 1 else Nat.pow 2 (-place).toNat }

/-- The two factors that bring `units` of the interval and `points` of the grid to one scale:
`units · fst` is compared with `points · snd`. -/
def Interval.scales (interval : Interval) (grid : Int) : Nat × Nat :=
  if 0 ≤ grid then (interval.scaleUp, Nat.pow 10 grid.toNat * interval.scaleDown)
  else (interval.scaleUp * Nat.pow 10 (-grid).toNat, interval.scaleDown)

/-- Whether the `point`-th point of a grid rounds to the number. -/
def Interval.holds (interval : Interval) (grid : Int) (point : Nat) : Bool :=
  let (unit, mesh) := interval.scales grid
  let p := point * mesh
  if interval.closed then interval.low * unit ≤ p && p ≤ interval.high * unit
  else interval.low * unit < p && p < interval.high * unit

/-- The point of a grid that stands for the number, if there is one. -/
def Interval.pointOn? (interval : Interval) (tie : Tie) (grid : Int) : Option Nat :=
  let (unit, mesh) := interval.scales grid
  let v := interval.value * unit
  let below := v / mesh
  match interval.holds grid below, interval.holds grid (below + 1) with
  | false, false => none
  | true, false => some below
  | false, true => some (below + 1)
  | true, true =>
    if 2 * v < (2 * below + 1) * mesh then some below
    else if (2 * below + 1) * mesh < 2 * v then some (below + 1)
    else
      match tie with
      | .up => some (below + 1)
      | .even => if below % 2 == 0 then some below else some (below + 1)

/-- Searches `count` grids from `grid` on, each ten times finer than the one before. -/
def Interval.search (interval : Interval) (tie : Tie) : Nat → Int → Option Decimal
  | 0, _ => none
  | count + 1, grid =>
    match interval.pointOn? tie grid with
    | some point => some ⟨point, grid⟩
    | none => interval.search tie count (grid - 1)

/-- The exact decimal of a finite number, apart from its sign. -/
def exact (v : Binary64) : Decimal :=
  if 0 ≤ v.exponent then ⟨v.significand * Nat.pow 2 v.exponent.toNat, 0⟩
  else ⟨v.significand * Nat.pow 5 (-v.exponent).toNat, v.exponent⟩

/-- A grid that is coarser than a finite number is great. -/
def coarsestGrid (v : Binary64) : Int :=
  ((v.significand.log2 + v.exponent + 1) * 30103).fdiv 100000 + 1

/-- The shortest decimal that rounds to a finite number, apart from its sign.  Twenty grids are
enough, as seventeen digits tell any two numbers apart. -/
def shortest (tie : Tie) (v : Binary64) : Decimal :=
  if v.magnitude == 0 then ⟨0, 0⟩
  else ((Interval.of v).search tie 20 (coarsestGrid v)).getD (exact v)

end Decimal

end Patchbay
