/-!
# `Decimal/Basic.lean` — decimal numbers as they are written

A decimal is a sign, a natural number of digits and a power of ten: `-12.50` is
`-1250 · 10^(-2)`. Reading keeps the value exactly, whatever its length, so the question whether a
number is *finite in double precision* is a comparison of natural numbers and needs no floating
point arithmetic: a decimal rounds to a finite double exactly when it is below `2^1024 - 2^970`,
the point half way between the largest double and the next power of two.

Numbers are read here for two purposes that have nothing else in common: to find out whether a
default is a number, where the value is thrown away, and to read settings, where it is kept.
-/

set_option autoImplicit false

namespace CatalogEntities

/-- **A decimal number**: `digits · 10^exponent`, with a sign. -/
structure Decimal where
  negative : Bool
  digits : Nat
  exponent : Int
  deriving Repr, DecidableEq

namespace Decimal

def ofDigits (ds : List Char) : Nat := ds.foldl (fun n c => 10 * n + (c.toNat - '0'.toNat)) 0

/-- An optional sign in front of a text: whether it is a minus, and the rest. -/
def takeSign : List Char → Bool × List Char
  | '+' :: rest => (false, rest)
  | '-' :: rest => (true, rest)
  | cs => (false, cs)

/-- The digits after a decimal point, if there is a point, and the rest. -/
def takeFraction : List Char → List Char × List Char
  | '.' :: rest => (rest.takeWhile Char.isDigit, rest.dropWhile Char.isDigit)
  | cs => ([], cs)

/-- An exponent, which ends the text: a mark, an optional sign and digits. -/
def readExponent : List Char → Option Int
  | [] => some 0
  | mark :: rest =>
      if mark = 'e' || mark = 'E' then
        let (negative, ds) := takeSign rest
        if ds.isEmpty || !ds.all Char.isDigit then none
        else some (if negative then -(ofDigits ds : Int) else ofDigits ds)
      else none

/-- **Reads a decimal**: an optional sign, digits with at most one point among or around them, and
an optional exponent. At least one digit must stand before the exponent. Words for infinity and for
what is no number are not read, and no white space is. -/
def read? (cs : List Char) : Option Decimal :=
  let (negative, cs) := takeSign cs
  let whole := cs.takeWhile Char.isDigit
  let (fraction, rest) := takeFraction (cs.dropWhile Char.isDigit)
  if whole.isEmpty && fraction.isEmpty then none
  else (readExponent rest).map fun e =>
    ⟨negative, ofDigits (whole ++ fraction), e - fraction.length⟩

def overflow : Nat := Nat.pow 2 1024 - Nat.pow 2 970

/-- **Whether the decimal rounds to a finite double.** The exponent may be huge, so the powers of
ten are only formed where the digits cannot already decide: beyond `10^308` every positive number
overflows, and a number whose digits are fewer than its decimal places is below one. -/
def isFinite (d : Decimal) : Bool :=
  if d.digits = 0 then true
  else if 0 ≤ d.exponent then
    d.exponent ≤ 308 && d.digits * Nat.pow 10 d.exponent.toNat < overflow
  else
    let places := (-d.exponent).toNat
    d.digits.log2 < places || d.digits < overflow * Nat.pow 10 places

end Decimal

end CatalogEntities
