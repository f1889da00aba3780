import DeviceStandby.Number.Double

/-!
# The shortest decimal of a double

`Double.shortest` is the decimal with the fewest digits that is rounded to a given double, and of
several the one nearest to it.  All comparisons are made in whole numbers.  The grids of the
multiples of a power of ten are tried from the coarsest one on: if a grid has a point that reads
back, then one of the double's two neighbours on it does.
-/

namespace DeviceStandby.Double

/-- Whether `digits * 10 ^ grid` is rounded to the double.  The numbers that are rounded to it reach
half way to its neighbours, and include the half-way points if its significand is even.  Bounds are
counted in quarters of the last binary digit, because the neighbour below a power of two is nearer
than the one above. -/
def readsBack (d : Double) (digits : Nat) (grid : Int) : Bool :=
  let lower := if d.significand = leastFull ∧ leastExponent < d.exponent then 4 * d.significand - 1
    else 4 * d.significand - 2
  let upper := 4 * d.significand + 2
  let quarter := d.exponent - 2
  let point := digits * Nat.pow 10 grid.toNat * Nat.pow 2 (-quarter).toNat
  let unit := Nat.pow 2 quarter.toNat * Nat.pow 10 (-grid).toNat
  if d.significand % 2 = 0 then decide (lower * unit ≤ point) && decide (point ≤ upper * unit)
  else decide (lower * unit < point) && decide (point < upper * unit)

/-- The neighbour of the double on a grid that reads back, the nearer one if both do. -/
def onGrid? (d : Double) (grid : Int) : Option Nat :=
  let num := d.num * Nat.pow 10 (-grid).toNat
  let den := d.den * Nat.pow 10 grid.toNat
  let below := num / den
  match d.readsBack below grid, d.readsBack (below + 1) grid with
  | true, true => some (roundQuotient num den)
  | true, false => some below
  | false, true => some (below + 1)
  | false, false => none

/-- The exponent of a power of ten that is at least the double, and at most ten times it. -/
def magnitude (d : Double) : Int :=
  if d.den ≤ d.num then (Nat.toDigits 10 (d.num / d.den)).length
  else 1 - ((Nat.toDigits 10 (d.den / d.num)).length : Int)

/-- The first hit on the grids from `grid` down.  The exact value stands for want of one. -/
def search (d : Double) : Nat → Int → Nat × Int
  | 0, _ => (d.significand * Nat.pow 2 d.exponent.toNat * Nat.pow 5 (-d.exponent).toNat,
      min 0 d.exponent)
  | grids + 1, grid =>
    match d.onGrid? grid with
    | some digits => (digits, grid)
    | none => d.search grids (grid - 1)

/-- The shortest decimal that reads back, as digits and the exponent of a power of ten.  Seventeen
digits always suffice. -/
def shortest (d : Double) : Nat × Int :=
  if d.significand = 0 then (0, 0) else d.search 18 d.magnitude

end DeviceStandby.Double
