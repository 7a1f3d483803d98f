import RequestFilter.Number.Double

/-! # Shortest decimals

Among the decimal numbers that read back as a given double, the one with the
fewest digits, and of those the one nearest to the double.  The search runs over
the grids of multiples of a power of ten, from coarse to fine: the first grid
with a point that reads back gives the digits.
-/

namespace RequestFilter.Double

/-- Which of two equally near decimals is taken. -/
inductive Tie where
  /-- The one farther from zero. -/
  | away
  /-- The one with an even last digit. -/
  | even
deriving DecidableEq, Repr

/-- A positive double beside the ends of the interval of reals that read back as it, all three
as numerators over one unit. -/
structure Neighbourhood where
  /-- The lower end. -/
  lower : Nat
  /-- The double itself. -/
  value : Nat
  /-- The upper end. -/
  upper : Nat
  /-- The ends belong to the interval. -/
  closed : Bool
  /-- The unit is two to this power. -/
  unitExponent : Int
deriving Repr

/-- The interval around `significand * 2 ^ exponent` reaches half way to the next double on each
side; below a power of two the next double is half as far. -/
def neighbourhood (significand : Nat) (exponent : Int) : Neighbourhood :=
  let isPower := significand = fractionSize ∧ -1074 < exponent
  { lower := 4 * significand - (if isPower then 1 else 2)
    value := 4 * significand
    upper := 4 * significand + 2
    closed := significand % 2 = 0
    unitExponent := exponent - 2 }

/-- The multiple of `10 ^ grid` nearest to the double among those that read back as it, in units
of that grid. -/
def Neighbourhood.nearestOnGrid (around : Neighbourhood) (tie : Tie) (grid : Int) : Option Nat :=
  let scale := Nat.pow 2 around.unitExponent.toNat * Nat.pow 10 (-grid).toNat
  let step := Nat.pow 2 (-around.unitExponent).toNat * Nat.pow 10 grid.toNat
  let isInside (point : Nat) : Bool :=
    if around.closed then
      around.lower * scale ≤ point * step && point * step ≤ around.upper * scale
    else around.lower * scale < point * step && point * step < around.upper * scale
  let below := around.value * scale / step
  let twice := 2 * (around.value * scale % step)
  let isUpperNearer : Bool := match tie with
    | .away => decide (step ≤ twice)
    | .even => step < twice || (twice == step && below % 2 == 1)
  match isInside below, isInside (below + 1) with
  | true, true => some (if isUpperNearer then below + 1 else below)
  | true, false => some below
  | false, true => some (below + 1)
  | false, false => none

/-- A power of ten above `significand * 2 ^ exponent`, by less than three places. -/
def coarsestGrid (significand : Nat) (exponent : Int) : Int :=
  ((significand.log2 + 1 : Int) + exponent) * 30103 / 100000 + 1

/-- The digits and the power of ten of the shortest decimal for `significand * 2 ^ exponent`. -/
def shortest (tie : Tie) (significand : Nat) (exponent : Int) : Nat × Int :=
  let around := neighbourhood significand exponent
  let start := coarsestGrid significand exponent
  ((List.range 24).findSome? fun (depth : Nat) =>
    let grid := start - depth
    (around.nearestOnGrid tie grid).map fun digits => (digits, grid)).getD (0, 0)

end RequestFilter.Double
