import Medallion.Number.Shortest

/-!
# Written forms of numbers

How the shortest digits of a number are laid out is a choice of each output format.  A
`NumberLayout` holds the choices, and `Binary64.write` follows them:

* which of two equally near decimals is taken;
* for which powers of ten of the leading digit the number is written without an exponent;
* whether a whole number ends in `.0`.
-/

namespace Medallion

/-- The choices of an output format on numbers. -/
structure NumberLayout where
  tie : Tie
  /-- Whether a number whose leading digit has this power of ten is written plainly. -/
  plain : Int → Bool
  /-- Whether a whole number written plainly ends in `.0`. -/
  pointZero : Bool

/-- The decimal digits of a natural number. -/
def decimalDigits (n : Nat) : List Char := Nat.toDigits 10 n

/-- The written form of a whole number. -/
def decimalText (i : Int) : List Char :=
  if i < 0 then '-' :: decimalDigits i.natAbs else decimalDigits i.natAbs

/-- Digits that stand `exponent` places before the point, written without an exponent. -/
def writePlain (pointZero : Bool) (digits : List Char) (exponent : Int) : List Char :=
  if 0 ≤ exponent then
    digits ++ List.replicate exponent.toNat '0' ++ (if pointZero then ['.', '0'] else [])
  else
    let places := exponent.natAbs
    if digits.length ≤ places then
      ['0', '.'] ++ List.replicate (places - digits.length) '0' ++ digits
    else
      digits.take (digits.length - places) ++ ['.'] ++ digits.drop (digits.length - places)

/-- Digits written with a point behind the first one and an exponent with a sign. -/
def writeScientific (digits : List Char) (leading : Int) : List Char :=
  let fraction := digits.drop 1
  digits.take 1 ++ (if fraction.isEmpty then [] else '.' :: fraction) ++
    'e' :: (if leading < 0 then '-' else '+') :: decimalDigits leading.natAbs

/-- The written form of a finite number. -/
def Binary64.write (layout : NumberLayout) (x : Binary64) : List Char :=
  let (digits, exponent) := x.shortest layout.tie
  let cs := decimalDigits digits
  let leading := exponent + cs.length - 1
  (if x.negative then ['-'] else []) ++
    (if layout.plain leading then writePlain layout.pointZero cs exponent
      else writeScientific cs leading)

end Medallion
