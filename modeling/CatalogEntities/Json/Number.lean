import CatalogEntities.Json

/-!
# `Json/Number.lean` — reading the numbers of structured data

The digits of a number go into a *significand* of one machine word, and the places that they take
into a power of ten. A digit that does not fit the word any more is dropped; in front of the point
it still counts as a place. A text without point and exponent whose digits all fit is an integer.
Every other number is a double: the significand times or over the power of ten. Significand, power
and result are each rounded to double precision, so a number of many digits may end beside the
double that is nearest to it. A number beyond the largest double is refused.
-/

set_option autoImplicit false

namespace CatalogEntities.Json

/-! ## The parts of a number text -/

/-- Digits in front of a number: one zero, or digits that do not begin with zero. -/
def takeWhole : List Char → Option (List Char × List Char)
  | '0' :: rest => some (['0'], rest)
  | cs =>
      let digits := cs.takeWhile Char.isDigit
      if digits.isEmpty then none else some (digits, cs.dropWhile Char.isDigit)

/-- A point with digits behind it; none if there is no point. -/
def takeFraction : List Char → Option (List Char × List Char)
  | '.' :: rest =>
      let digits := rest.takeWhile Char.isDigit
      if digits.isEmpty then none else some (digits, rest.dropWhile Char.isDigit)
  | cs => some ([], cs)

/-- An exponent, if there is one. -/
def takeExponent : List Char → Option (Option Int × List Char)
  | mark :: rest =>
      if mark = 'e' ∨ mark = 'E' then
        let (negative, rest) := Decimal.takeSign rest
        let digits := rest.takeWhile Char.isDigit
        if digits.isEmpty then none
        else
          let n : Int := Decimal.ofDigits digits
          some (some (if negative then -n else n), rest.dropWhile Char.isDigit)
      else some (none, mark :: rest)
  | [] => some (none, [])

/-! ## The value of a number text -/

/-- Adds digits to a significand for as long as it fits a machine word. Answers the significand,
how many digits it took, and the digits that it did not take. -/
def addDigits (n : Nat) : List Char → Nat × Nat × List Char
  | [] => (n, 0, [])
  | c :: cs =>
      let m := 10 * n + (c.toNat - '0'.toNat)
      if m < Nat.pow 2 64 then
        let (n, count, left) := addDigits m cs
        (n, count + 1, left)
      else (n, 0, c :: cs)

/-- The double nearest to `10^k`. -/
def tenTo (k : Nat) : Double := .ofRatio false (Nat.pow 10 k) 1

/-- A double moved by a power of ten, unless that makes it infinite. The largest power of ten that
is a double is `10^308`, so a larger denominator is divided by in two steps; after those a
significand of one word leaves nothing. -/
def shift? (d : Double) (e : Int) : Option Double :=
  if d.significand = 0 then some d
  else if 308 < e then none
  else if 0 ≤ e then d.product? (tenTo e.toNat)
  else if -308 ≤ e then some (d.quotient (tenTo (-e).toNat))
  else if -616 ≤ e then some ((d.quotient (tenTo 308)).quotient (tenTo (-e - 308).toNat))
  else some (.ofRatio d.negative 0 1)

/-- The number that the parts of a number text denote. A zero with a minus sign is a double. -/
def number? (negative : Bool) (whole fraction : List Char) (exponent : Option Int) : Option Json :=
  let (n, _, dropped) := addDigits 0 whole
  let signed : Int := if negative then -n else n
  if dropped.isEmpty && fraction.isEmpty && exponent.isNone && fitsWord signed
      && !(negative && n = 0) then
    some (integer signed)
  else
    let (n, places, _) := addDigits n fraction
    (shift? (.ofRatio negative n 1) (exponent.getD 0 + dropped.length - places)).map float

/-- **Reads a number**, and answers what follows it. A plus sign does not begin one. -/
def readNumber (cs : List Char) : Option (Json × List Char) := do
  let (negative, cs) := match cs with
    | '-' :: rest => (true, rest)
    | cs => (false, cs)
  let (whole, cs) ← takeWhole cs
  let (fraction, cs) ← takeFraction cs
  let (exponent, cs) ← takeExponent cs
  let value ← number? negative whole fraction exponent
  some (value, cs)

end CatalogEntities.Json
