/-!
# Binary numbers of 64 bits

A `Binary64` is a bit pattern of the double format: one sign bit, eleven exponent bits,
fifty-two fraction bits.  Keeping the pattern, and not a machine number, makes equality
decidable and tells the two zeros and the many NaNs apart.

* `magnitude` is the pattern without its sign.  It grows with the absolute value, so
  `orderKey` turns it into the total order of patterns:
  −NaN < −∞ < … < −0 < 0 < … < ∞ < NaN.
* `significand` and `scale` give the exact value `significand · 2 ^ scale` of a finite
  pattern.
* `ofRatio` is the nearest pattern to a quotient of natural numbers, a tie going to the
  even significand.  The arithmetic below it is exact, on natural numbers.
-/

namespace Medallion

/-- A bit pattern of the double format. -/
structure Binary64 where
  bits : UInt64
  deriving DecidableEq, Repr, Inhabited

namespace Binary64

/-- The weight of the sign bit. -/
def signWeight : Nat := 0x8000000000000000

/-- The weight of the lowest exponent bit, also the least significand of a normal
number. -/
def hiddenBit : Nat := 0x10000000000000

/-- The magnitude of infinity: all exponent bits set and no fraction. -/
def infinityMagnitude : Nat := 0x7FF0000000000000

/-- The scale of the numbers next to zero. -/
def leastScale : Int := -1074

/-- The pattern with a sign and a magnitude below the sign bit. -/
def ofMagnitude (negative : Bool) (magnitude : Nat) : Binary64 :=
  ⟨((if negative then signWeight else 0) + magnitude).toUInt64⟩

/-- Whether the sign bit is set. -/
def negative (x : Binary64) : Bool := decide (signWeight ≤ x.bits.toNat)

/-- The pattern without its sign bit. -/
def magnitude (x : Binary64) : Nat := x.bits.toNat % signWeight

/-- Whether the pattern is not a number. -/
def isNaN (x : Binary64) : Bool := decide (infinityMagnitude < x.magnitude)

/-- Whether the pattern is an infinity. -/
def isInfinite (x : Binary64) : Bool := x.magnitude == infinityMagnitude

/-- Whether the pattern is one of the zeros. -/
def isZero (x : Binary64) : Bool := x.magnitude == 0

/-- The pattern with the other sign. -/
def neg (x : Binary64) : Binary64 := ofMagnitude (!x.negative) x.magnitude

/-- Positive zero. -/
def zero : Binary64 := ⟨0⟩

/-- One. -/
def one : Binary64 := ⟨0x3FF0000000000000⟩

/-- The infinity of a sign. -/
def infinity (negative : Bool) : Binary64 := ofMagnitude negative infinityMagnitude

/-- The weight of the highest fraction bit, which marks a NaN as quiet. -/
def quietBit : Nat := 0x8000000000000

/-- The NaN of a sign: the least quiet pattern. -/
def nan (negative : Bool) : Binary64 := ofMagnitude negative (infinityMagnitude + quietBit)

/-- The exponent bits of a magnitude. -/
def exponentBits (x : Binary64) : Nat := x.magnitude / hiddenBit

/-- The significand of a finite pattern. -/
def significand (x : Binary64) : Nat :=
  if x.exponentBits = 0 then x.magnitude
  else hiddenBit + x.magnitude % hiddenBit

/-- The power of two that the significand of a finite pattern is multiplied by. -/
def scale (x : Binary64) : Int :=
  if x.exponentBits = 0 then leastScale else leastScale + (x.exponentBits - 1 : Nat)

/-- A key that orders the patterns: of negative ones the larger magnitude is the lesser,
and each of them is below every pattern without a sign. -/
def orderKey (x : Binary64) : Int :=
  if x.negative then -1 - (x.magnitude : Int) else x.magnitude

/-- The quotient rounded to the nearest whole number, a tie going to the even one. -/
def roundHalfEven (num den : Nat) : Nat :=
  let whole := num / den
  let twice := 2 * (num % den)
  if twice < den ∨ (twice = den ∧ whole % 2 = 0) then whole else whole + 1

/-- The numerator and denominator of `num / den · 2 ^ power`. -/
def shifted (num den : Nat) (power : Int) : Nat × Nat :=
  (num * Nat.pow 2 power.toNat, den * Nat.pow 2 (-power).toNat)

/-- The scale at which `num / den` has a significand of at most fifty-three bits, but not
below the least scale. -/
def scaleOfRatio (num den : Nat) : Int :=
  let low : Int := (Nat.log2 num : Int) - Nat.log2 den - 53
  let (n, d) := shifted num den (-low)
  max leastScale (if n / d < 2 * hiddenBit then low else low + 1)

/-- The pattern nearest to `num / den`, a tie going to the even significand.  The place of
a significand among the magnitudes carries over into the next scale by itself when
rounding fills it up. -/
def ofRatio (negative : Bool) (num den : Nat) : Binary64 :=
  if num = 0 then ofMagnitude negative 0
  else
    let scale := scaleOfRatio num den
    let (n, d) := shifted num den (-scale)
    let magnitude := (scale - leastScale).toNat * hiddenBit + roundHalfEven n d
    ofMagnitude negative (min magnitude infinityMagnitude)

/-- The pattern nearest to a natural number. -/
def ofNat (n : Nat) : Binary64 := ofRatio false n 1

/-- The exact absolute value of a finite pattern, as a numerator and a denominator. -/
def toRatio (x : Binary64) : Nat × Nat := shifted x.significand 1 x.scale

/-- The absolute value of a finite pattern, times a quotient, rounded once. -/
def scaleBy (x : Binary64) (num den : Nat) : Binary64 :=
  let (n, d) := x.toRatio
  ofRatio x.negative (n * num) (d * den)

/-- The whole number that a finite pattern stands for, if its value is whole. -/
def toInt? (x : Binary64) : Option Int :=
  let (n, d) := x.toRatio
  if x.isNaN || x.isInfinite || n % d != 0 then none
  else some (if x.negative then -(n / d : Nat) else (n / d : Nat))

end Binary64

end Medallion
