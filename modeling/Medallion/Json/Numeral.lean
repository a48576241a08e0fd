import Medallion.Json.Value
import Medallion.Number.Decimal

/-!
# Numbers of JSON texts

A numeral is a number as it is written: sign, whole digits, fraction, exponent.  The whole
digits are a single zero or do not start with one.

`Numeral.value?` is the number that it stands for.

* Without fraction and exponent, a numeral that fits a 64-bit integer, with or without a
  sign, is that integer.  `-0` is the negative zero.
* Any other numeral is a binary number.  Its digits are gathered in a significand as long
  as that fits 64 bits.  Of the whole digits that no longer fit only the number counts; of
  the fraction all digits from the first that does not fit are left out.  The significand
  is then multiplied or divided once by a power of ten, each operation rounding to the
  nearest binary number.  So a value can differ from the nearest one in its last bit.
* A number beyond the greatest binary number is no value.
-/

namespace Medallion

/-- A number as written. -/
structure Numeral where
  negative : Bool
  whole : List Char
  fraction : List Char
  /-- The sign and the digits of the exponent, if there is one; true is a minus. -/
  exponent : Option (Bool × List Char)
  deriving DecidableEq, Repr

namespace Numeral

open Decimal (isDigit natOfDigits takeSign)

/-- Takes a point and the digits after it, at least one, off. -/
def readFraction? : List Char → Option (List Char × List Char)
  | '.' :: cs =>
    let digits := cs.takeWhile isDigit
    if digits.isEmpty then none else some (digits, cs.dropWhile isDigit)
  | cs => some ([], cs)

/-- Reads the exponent that the rest of a numeral is, if it is not empty. -/
def readExponent? : List Char → Option (Option (Bool × List Char))
  | [] => some none
  | c :: cs =>
    if c = 'e' ∨ c = 'E' then
      let (negative, digits) := takeSign cs
      if digits.isEmpty || !digits.all isDigit then none else some (some (negative, digits))
    else none

/-- Reads a numeral. -/
def read? (cs : List Char) : Option Numeral := do
  let (negative, cs) := match cs with
    | '-' :: cs => (true, cs)
    | cs => (false, cs)
  let whole := cs.takeWhile isDigit
  if whole.isEmpty || (whole.head? == some '0' && whole.length ≠ 1) then none
  else
    let (fraction, rest) ← readFraction? (cs.dropWhile isDigit)
    let exponent ← readExponent? rest
    some ⟨negative, whole, fraction, exponent⟩

/-- The least number that does not fit 64 bits. -/
def significandLimit : Nat := 0x10000000000000000

/-- The greatest absolute value of a negative number that fits 64 bits. -/
def negativeLimit : Nat := 0x8000000000000000

/-- The least number that does not fit a 32-bit exponent. -/
def exponentLimit : Nat := 0x80000000

/-- Gathers digits as long as the significand fits; the answer holds the significand and
the digits that are left. -/
def gather (significand : Nat) : List Char → Nat × List Char
  | [] => (significand, [])
  | c :: cs =>
    let next := 10 * significand + natOfDigits [c]
    if next < significandLimit then gather next cs else (significand, c :: cs)

/-- A power of ten as a binary number. -/
def powerOfTen (k : Nat) : Binary64 := .ofNat (Nat.pow 10 k)

/-- The greatest power of ten that one multiplication or division takes. -/
def greatestPower : Nat := 308

/-- Divides by ten to the power of `places`, in at most `count` divisions.  Three are
enough to bring any significand down to zero. -/
def divideByPower : (count : Nat) → Binary64 → (places : Nat) → Binary64
  | 0, x, _ => .ofMagnitude x.negative 0
  | count + 1, x, places =>
    let divide (k : Nat) : Binary64 :=
      let (n, d) := (powerOfTen k).toRatio
      x.scaleBy d n
    if places ≤ greatestPower then divide places
    else divideByPower count (divide greatestPower) (places - greatestPower)

/-- The binary number `significand · 10 ^ power`, unless it is too large. -/
def scaled? (significand : Nat) (power : Int) : Option Binary64 :=
  let x := Binary64.ofNat significand
  if power < 0 then some (divideByPower 4 x power.natAbs)
  else if significand = 0 then some x
  else if greatestPower < power.toNat then none
  else
    let (n, d) := (powerOfTen power.toNat).toRatio
    let y := x.scaleBy n d
    if y.isInfinite then none else some y

/-- The binary number that a numeral stands for, without its sign. -/
def real? (n : Numeral) : Option Binary64 :=
  let (whole, wholeLeft) := gather 0 n.whole
  let (significand, fractionLeft) := gather whole n.fraction
  let power : Int := wholeLeft.length - (n.fraction.length - fractionLeft.length : Nat)
  match n.exponent with
  | none => scaled? significand power
  | some (negative, digits) =>
    let e := natOfDigits digits
    if e < exponentLimit then scaled? significand (if negative then power - e else power + e)
    else if significand = 0 ∨ negative then some .zero
    else none

/-- The number that a numeral stands for, unless it is too large. -/
def value? (n : Numeral) : Option Number :=
  let whole := natOfDigits n.whole
  let signed (x : Binary64) : Number := .real (if n.negative then x.neg else x)
  if n.fraction.isEmpty && n.exponent.isNone && whole < significandLimit then
    if !n.negative then some (.integer whole)
    else if whole ≠ 0 ∧ whole ≤ negativeLimit then some (.integer (-whole))
    else some (signed (.ofNat whole))
  else n.real?.map signed

end Numeral

end Medallion
