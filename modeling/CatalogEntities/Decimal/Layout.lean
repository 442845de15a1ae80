import CatalogEntities.Decimal.Shortest
import CatalogEntities.Instant

/-!
# `Decimal/Layout.lean` — how the digits of a double are laid out

A double is written in one of two ways. As data its digits are the shortest that read back, and a
layout only decides whether they are written in place or with an exponent. Either way the text
shows that the number is not an integer: a number written in place has a point, with `.0` if
nothing else follows it.

For a reader it is written with a fixed number of places. Then the double is rounded as the exact
number that it is, to the nearest number with that many places, and halves go to the even
neighbour; the shortest digits play no part in it.
-/

set_option autoImplicit false

namespace CatalogEntities.Double

/-- **A layout**: for which positions of the decimal point the digits are written in place. The
position counts the digits in front of the point and is not positive below `1/10`. -/
structure Layout where
  inPlace : Int → Bool

/-- `n` zeros. -/
def zeros (n : Nat) : String := String.ofList (List.replicate n '0')

/-- Digits written in place, with the point at the given position. -/
def placed (ds : List Char) (point : Int) : String :=
  if (ds.length : Int) ≤ point then
    String.ofList ds ++ zeros (point - ds.length).toNat ++ ".0"
  else if 0 < point then
    String.ofList (ds.take point.toNat) ++ "." ++ String.ofList (ds.drop point.toNat)
  else "0." ++ zeros (-point).toNat ++ String.ofList ds

/-- An exponent of ten, which shows its sign either way. -/
def exponentText (e : Int) : String := (if e < 0 then "e-" else "e+") ++ toString e.natAbs

/-- Digits written with an exponent: one digit, a point and the others, if there are others. -/
def scaled (ds : List Char) (point : Int) : String :=
  String.ofList (ds.take 1)
    ++ (if ds.length ≤ 1 then "" else "." ++ String.ofList (ds.drop 1))
    ++ exponentText (point - 1)

/-- **The text of a double** in a layout. -/
def text (layout : Layout) (d : Double) : String :=
  let (n, k) := d.shortest
  let ds := Nat.toDigits 10 n
  let point := (ds.length : Int) + k
  let body :=
    if n = 0 then "0.0"
    else if layout.inPlace point then placed ds point else scaled ds point
  if d.negative then "-" ++ body else body

/-- Every number in place, however many zeros that takes. -/
def Layout.plain : Layout := ⟨fun _ => true⟩

/-- Numbers from `10^-5` to below `10^16` in place, all others with an exponent. -/
def Layout.compact : Layout := ⟨fun point => -5 < point && point ≤ 16⟩

/-! ## With a fixed number of places -/

/-- **The text of a double** with a fixed number of places behind the point, at least one. -/
def fixed (places : Nat) (d : Double) : String :=
  let (a, b) := d.ratio
  let scale := Nat.pow 10 places
  let n := divideEven (a * scale) b
  (if d.negative then "-" else "") ++ toString (n / scale) ++ "."
    ++ Instant.padded places (n % scale)

end CatalogEntities.Double
