import Medallion.Text.CaseData
import Medallion.Text.Blank

/-!
# Lower case

`lower` is the full lower-case mapping of Unicode.  A character maps to its simple
lower-case form, with two exceptions:

* U+0130 becomes two characters, an `i` and a combining dot;
* a capital sigma becomes the final form `ς` at the end of a word and `σ` elsewhere.

A sigma ends a word when a letter with case stands before it and none after it.
Ignorable characters, such as marks and apostrophes, are passed over on both sides.
-/

namespace Medallion.Text

/-- The lower-case code point of a code point, itself if it has none. -/
def simpleLowerCode (code : Nat) : Nat :=
  match lowerRuns.find? fun r =>
      r.first ≤ code && code ≤ r.last && (code - r.first) % r.stride == 0 with
  | some r => (code + r.offset).toNat
  | none => code

/-- The simple lower-case form of a character.  Letters of ASCII need no look-up. -/
def simpleLower (c : Char) : Char :=
  if c.toNat < 128 then c.toLower else Char.ofNat (simpleLowerCode c.toNat)

/-- Whether the letters around a sigma are looked for behind this character. -/
def isCaseIgnorable (c : Char) : Bool :=
  inRanges ignorableRangesLow c.toNat || inRanges ignorableRangesHigh c.toNat

/-- Whether a character that is not ignorable has case. -/
def isCased (c : Char) : Bool := inRanges casedRanges c.toNat

/-- Whether the first character that is not ignorable has case. -/
def meetsCased (cs : List Char) : Bool :=
  match cs.dropWhile isCaseIgnorable with
  | c :: _ => isCased c
  | [] => false

/-- The lower-case form of a character that stands between `before`, nearest first,
and `after`. -/
def lowerBetween (before : List Char) (c : Char) (after : List Char) : List Char :=
  if c = 'Σ' then
    if meetsCased before && !meetsCased after then ['ς'] else ['σ']
  else if c = 'İ' then ['i', '\u0307']
  else [simpleLower c]

/-- The lower-case form of a text whose preceding characters, nearest first, are given. -/
def lowerFrom (before : List Char) : List Char → List Char
  | [] => []
  | c :: cs => lowerBetween before c cs ++ lowerFrom (c :: before) cs

/-- The lower-case form of a text. -/
def lower (s : String) : String := String.ofList (lowerFrom [] s.toList)

end Medallion.Text
