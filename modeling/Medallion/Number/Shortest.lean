import Medallion.Number.Decimal

/-!
# Shortest decimal digits of a binary number

The reals that round to a binary number form an interval, from halfway to the number below
to halfway to the number above.  The ends belong to it exactly when the significand is
even.  `shortest` looks for the fewest digits that name a point of that interval: for one,
two, … digits it tries the two neighbours of the exact value on the grid of decimals with
that many digits.  The first grid with a hit wins, of two hits the nearer one; which of
two equally near ones is taken is a choice of the output format (`Tie`).

All comparisons are exact, between products of natural numbers.
-/

namespace Medallion

/-- Which of two equally near decimals is taken. -/
inductive Tie where
  /-- The one with the even last digit. -/
  | even
  /-- The larger one. -/
  | up
  deriving DecidableEq, Repr

namespace Binary64

/-- The ends of the interval of reals that round to a positive finite number, in quarters
of the unit of its last place.  Just above a power of two the number below is only half as
far away as the number above. -/
def roundingEnds (x : Binary64) : Nat × Nat :=
  let m := x.significand
  (if m = hiddenBit ∧ x.scale > leastScale then 4 * m - 1 else 4 * m - 2, 4 * m + 2)

/-- `num · 10 ^ power / den` as a numerator and a denominator. -/
def tenfold (num den : Nat) (power : Int) : Nat × Nat :=
  (num * Nat.pow 10 power.toNat, den * Nat.pow 10 (-power).toNat)

/-- Whether `digits · 10 ^ exponent` rounds to a positive finite number. -/
def readsBack (x : Binary64) (digits : Nat) (exponent : Int) : Bool :=
  let (low, high) := x.roundingEnds
  let (n, d) := tenfold digits 1 exponent
  let (ln, ld) := shifted low 1 (x.scale - 2)
  let (hn, hd) := shifted high 1 (x.scale - 2)
  if x.significand % 2 = 0 then ln * d ≤ n * ld && n * hd ≤ hn * d
  else ln * d < n * ld && n * hd < hn * d

/-- The power of ten of the leading digit of `num / den`, which is not zero. -/
def decimalExponent (num den : Nat) : Int :=
  if den ≤ num then ((Nat.toDigits 10 (num / den)).length : Int) - 1
  else
    let places := (Nat.toDigits 10 (den / num)).length
    if den ≤ num * Nat.pow 10 (places - 1) then 1 - (places : Int) else -(places : Int)

/-- Of the two neighbours `low` and `low + 1` of a value on a grid, the one that rounds to
the number, and of two such the nearer.  The value is `num / den` in units of the grid. -/
def nearestHit? (tie : Tie) (x : Binary64) (num den : Nat) (exponent : Int) : Option Nat :=
  let low := num / den
  match x.readsBack low exponent, x.readsBack (low + 1) exponent with
  | true, false => some low
  | false, true => some (low + 1)
  | false, false => none
  | true, true =>
    let rest := 2 * (num % den)
    if rest < den then some low
    else if den < rest then some (low + 1)
    else
      match tie with
      | .up => some (low + 1)
      | .even => some (if low % 2 = 0 then low else low + 1)

/-- Tries the grids of decimals from the exponent `exponent` downwards, at most `count` of
them. -/
def searchGrids (tie : Tie) (x : Binary64) (num den : Nat) :
    (count : Nat) → (exponent : Int) → Nat × Int
  | 0, exponent =>
    let (n, d) := tenfold num den (-exponent)
    (n / d, exponent)
  | count + 1, exponent =>
    let (n, d) := tenfold num den (-exponent)
    match nearestHit? tie x n d exponent with
    | some digits => (digits, exponent)
    | none => searchGrids tie x num den count (exponent - 1)

/-- Drops the zeros at the end of a number's digits into the exponent; `count` bounds how
many. -/
def dropZeros : (count : Nat) → Nat × Int → Nat × Int
  | 0, d => d
  | count + 1, (digits, exponent) =>
    if digits ≠ 0 ∧ digits % 10 = 0 then dropZeros count (digits / 10, exponent + 1)
    else (digits, exponent)

/-- The fewest digits, and their exponent, that read back as a finite number without its
sign.  Seventeen digits always suffice. -/
def shortest (tie : Tie) (x : Binary64) : Nat × Int :=
  if x.isZero then (0, 0)
  else
    let (num, den) := x.toRatio
    dropZeros 17 (searchGrids tie x num den 17 (decimalExponent num den))

end Binary64

end Medallion
