import Medallion.Number.Binary64

/-!
# Decimal numbers and their reading

A `Decimal` is `digits · 10 ^ exponent` with a sign.  `Decimal.read?` reads the written
form used on sheets: an optional sign, digits with an optional point (at least one digit
in all), an optional exponent.  `Binary64.read?` adds the words for infinity and NaN and
rounds once, to the nearest binary number.
-/

namespace Medallion

/-- The number `± digits · 10 ^ exponent`. -/
structure Decimal where
  negative : Bool
  digits : Nat
  exponent : Int
  deriving DecidableEq, Repr

namespace Decimal

/-- Whether a character is one of the ten digits. -/
def isDigit (c : Char) : Bool := '0' ≤ c && c ≤ '9'

/-- The natural number that some digits write. -/
def natOfDigits (cs : List Char) : Nat :=
  cs.foldl (fun n c => 10 * n + (c.toNat - '0'.toNat)) 0

/-- Takes an optional sign off; true is a minus. -/
def takeSign : List Char → Bool × List Char
  | '-' :: cs => (true, cs)
  | '+' :: cs => (false, cs)
  | cs => (false, cs)

/-- Takes an optional point and the digits after it off. -/
def takeFraction : List Char → List Char × List Char
  | '.' :: cs => (cs.takeWhile isDigit, cs.dropWhile isDigit)
  | cs => ([], cs)

/-- Reads the exponent that the rest of a number is: nothing, or a mark, an optional sign
and at least one digit. -/
def readExponent? : List Char → Option Int
  | [] => some 0
  | c :: cs =>
    if c = 'e' ∨ c = 'E' then
      let (negative, digits) := takeSign cs
      if digits.isEmpty || !digits.all isDigit then none
      else
        let n : Int := natOfDigits digits
        some (if negative then -n else n)
    else none

/-- Reads the digits, the point and the exponent of a number without a sign. -/
def readUnsigned? (negative : Bool) (cs : List Char) : Option Decimal :=
  let whole := cs.takeWhile isDigit
  let (fraction, rest) := takeFraction (cs.dropWhile isDigit)
  if whole.isEmpty && fraction.isEmpty then none
  else
    (readExponent? rest).map fun exponent =>
      ⟨negative, natOfDigits (whole ++ fraction), exponent - fraction.length⟩

/-- The nearest binary number.  Beyond the powers of ten that the format reaches the
answer is known without computing the power. -/
def toBinary64 (d : Decimal) : Binary64 :=
  let leading : Int := (Nat.toDigits 10 d.digits).length + d.exponent
  if d.digits = 0 ∨ leading < -330 then .ofMagnitude d.negative 0
  else if 310 < leading then .infinity d.negative
  else .ofRatio d.negative (d.digits * Nat.pow 10 d.exponent.toNat)
      (Nat.pow 10 (-d.exponent).toNat)

end Decimal

/-- Reads the written form of a number: a decimal number, or one of the words `inf`,
`infinity` and `nan` in any case, each with an optional sign. -/
def Binary64.read? (cs : List Char) : Option Binary64 :=
  let (negative, rest) := Decimal.takeSign cs
  let word := String.ofList (rest.map Char.toLower)
  if word = "inf" ∨ word = "infinity" then some (.infinity negative)
  else if word = "nan" then some (.nan negative)
  else (Decimal.readUnsigned? negative rest).map Decimal.toBinary64

end Medallion
