import CatalogEntities.Decimal.Basic

/-!
# `Decimal/Double.lean` — rounding to double precision

Numbers that pass through double precision (a duration in seconds, a fraction in a configuration
file) are modelled by the integers behind a double: `significand · 2^exponent` with at most 53
bits. A quotient of natural numbers is rounded to the nearest such number, and a quotient half way
between two goes to the one with the even significand.

So everything is computed with integers, and what is proved about rounding is arithmetic. That the
numbers are the same as those of a processor is not a statement of this library; the definition of
rounding to the nearest is written out so that it can be compared.
-/

set_option autoImplicit false

namespace CatalogEntities

/-- **A finite double**: `significand · 2^exponent`, with a sign that zero has too. One number has
one double: significands are as large as they can be, down to the smallest exponent. -/
structure Double where
  negative : Bool
  significand : Nat
  exponent : Int
  deriving Repr, DecidableEq

namespace Double

/-- The smallest exponent: from here on down, numbers lose bits instead of magnitude. -/
def minExponent : Int := -1074

/-- `a / b` to the nearest natural number, halves to the even neighbour. -/
def divideEven (a b : Nat) : Nat :=
  let q := a / b
  let r := a % b
  if 2 * r < b then q
  else if b < 2 * r then q + 1
  else if q % 2 = 0 then q else q + 1

/-- `num / den` in units of `2^e`, as a fraction. -/
def inUnits (num den : Nat) (e : Int) : Nat × Nat :=
  (num * Nat.pow 2 (-e).toNat, den * Nat.pow 2 e.toNat)

/-- The exponent at which a quotient has a significand of 53 bits, or the smallest exponent. -/
def exponentFor (num den : Nat) : Int :=
  let guess : Int := (num.log2 : Int) - den.log2 - 52
  let (a, b) := inUnits num den guess
  max (if a < Nat.pow 2 52 * b then guess - 1 else guess) minExponent

/-- **The double nearest to `num / den`.** Rounding can carry into a bit too many, and then the
number is a power of two and has the next exponent. No bound is looked at above, so a quotient
beyond the largest double has an exponent that no double has; whether it is one is asked before. -/
def ofRatio (negative : Bool) (num den : Nat) : Double :=
  if num = 0 then ⟨negative, 0, minExponent⟩
  else
    let e := exponentFor num den
    let (a, b) := inUnits num den e
    let m := divideEven a b
    if m = Nat.pow 2 53 then ⟨negative, Nat.pow 2 52, e + 1⟩ else ⟨negative, m, e⟩

/-- The double nearest to a decimal that rounds to a finite one. A decimal with more places than
`400` beyond its digits is below every positive double and needs no exact quotient. -/
def ofDecimal (d : Decimal) : Double :=
  if 0 ≤ d.exponent then ofRatio d.negative (d.digits * Nat.pow 10 d.exponent.toNat) 1
  else
    let places := (-d.exponent).toNat
    if d.digits.log2 + 400 < places then ⟨d.negative, 0, minExponent⟩
    else ofRatio d.negative d.digits (Nat.pow 10 places)

def ofInt (n : Int) : Double := ofRatio (n < 0) n.natAbs 1

/-- The magnitude as a fraction. -/
def ratio (d : Double) : Nat × Nat :=
  (d.significand * Nat.pow 2 d.exponent.toNat, Nat.pow 2 (-d.exponent).toNat)

/-- A double divided by a positive natural number, rounded again. -/
def dividedBy (d : Double) (n : Nat) : Double :=
  let (a, b) := d.ratio
  ofRatio d.negative a (b * n)

/-- The quotient of a double and one that is not zero, rounded again. -/
def quotient (d e : Double) : Double :=
  let (a, b) := d.ratio
  let (p, q) := e.ratio
  ofRatio (d.negative != e.negative) (a * q) (b * p)

/-- The product of two doubles, rounded again; none if that is infinite. -/
def product? (d e : Double) : Option Double :=
  let (a, b) := d.ratio
  let (p, q) := e.ratio
  if a * p < Decimal.overflow * (b * q) then
    some (ofRatio (d.negative != e.negative) (a * p) (b * q))
  else none

end Double

end CatalogEntities
