import CatalogEntities.Decimal.Double

/-!
# `Decimal/Shortest.lean` — the fewest digits that read back

A double is printed with the fewest decimal digits that still denote it: of all decimals that
round to the double, those with the fewest digits, and of these the one nearest to it.

The decimals that round to a double form an interval, which contains its ends exactly when the
significand is even. On the grid of numbers with `n` digits only the two neighbours of the double
itself can be nearest, so the search tests two candidates for `n = 1, 2, …` until one falls into
the interval; seventeen digits always suffice.

That they suffice is proved and not assumed: the search has a last case in which it finds nothing,
and the statements about the printed numbers show that it is never reached.
-/

set_option autoImplicit false

namespace CatalogEntities.Double

/-- The ends of the interval that rounds to a double, in quarters of its last place: half a place
on either side, but only a quarter below a power of two, where the places get finer. -/
def quarterBounds (d : Double) : Nat × Nat :=
  let m := d.significand
  (if m = Nat.pow 2 52 && minExponent < d.exponent then 4 * m - 1 else 4 * m - 2, 4 * m + 2)

/-- The scales of a quarter place and of a grid of step `10^k`, on a common denominator. -/
def scales (d : Double) (k : Int) : Nat × Nat :=
  let e := d.exponent - 2
  (Nat.pow 2 e.toNat * Nat.pow 10 (-k).toNat, Nat.pow 2 (-e).toNat * Nat.pow 10 k.toNat)

/-- Whether `c · 10^k` rounds to the double. -/
def accepts (d : Double) (k : Int) (c : Nat) : Bool :=
  let (p, q) := d.scales k
  let (lo, hi) := d.quarterBounds
  if d.significand % 2 = 0 then lo * p ≤ c * q && c * q ≤ hi * p
  else lo * p < c * q && c * q < hi * p

/-- The number of digits before the decimal point; not positive for a number below `1/10`. -/
def magnitude (d : Double) : Int :=
  let (a, b) := d.ratio
  ((Nat.toDigits 10 (a * Nat.pow 10 400 / b)).length : Int) - 400

/-- The neighbour on the grid of step `10^k` that denotes the double, the nearer one if both do;
at equal distance the even one. -/
def onGrid (d : Double) (k : Int) : Option Nat :=
  let (p, q) := d.scales k
  let v := 4 * d.significand * p
  let below := v / q
  let rest := v % q
  let upFirst := q < 2 * rest || (q = 2 * rest && below % 2 = 1)
  let candidates := if upFirst then [below + 1, below] else [below, below + 1]
  candidates.find? (d.accepts k)

/-- A number without its trailing zeros, and how many were dropped. At most `fuel` are dropped. -/
def dropZeros : Nat → Nat → Nat → Nat × Nat
  | 0, n, dropped => (n, dropped)
  | fuel + 1, n, dropped =>
      if n % 10 = 0 && n ≠ 0 then dropZeros fuel (n / 10) (dropped + 1) else (n, dropped)

/-- **The shortest digits of a double** and the power of ten they are scaled by. A candidate may end
with zeros, if it was rounded up to a round number; they are counted into the power. -/
def shortest (d : Double) : Nat × Int :=
  if d.significand = 0 then (0, 0)
  else
    let grids := (List.range 17).map fun n => d.magnitude - (n + 1 : Nat)
    match grids.findSome? fun k => (d.onGrid k).map fun c => (c, k) with
    | some (c, k) =>
        let (c, dropped) := dropZeros 20 c 0
        (c, k + dropped)
    | none => (0, 0)

end CatalogEntities.Double
