import Medallion.Number.Layout
import Medallion.Text.Blank

/-!
# Cells

A cell of a mapping sheet is empty or holds a text, a number or a truth value.

* `toText?` is the text a cell is read as where a text is wanted.
* `normalize` trims a text cell and makes a blank one empty.
* `position` is what a cell says about the place of a column in a sort order: a number
  where it is one or reads as one, a text otherwise.  `Position.cmp` puts numbers before
  texts, orders numbers by their bit patterns and texts by code points.
-/

namespace Medallion

open Medallion.Text

/-- A cell of a sheet. -/
inductive Cell where
  | empty
  | text (s : String)
  | number (x : Binary64)
  | bool (b : Bool)
  deriving DecidableEq, Repr, Inhabited

/-- What a cell says about the place of its row in an order. -/
inductive Position where
  | number (x : Binary64)
  | text (s : String)
  deriving DecidableEq, Repr

/-- Compares two positions: numbers come before texts. -/
def Position.cmp : Position → Position → Ordering
  | .number x, .number y => compare x.orderKey y.orderKey
  | .number _, .text _ => .lt
  | .text _, .number _ => .gt
  | .text s, .text t => compare s t

namespace Cell

/-- Numbers in cells are written without an exponent, a whole one without a point; of two
equally near decimals the larger is taken. -/
def numberLayout : NumberLayout := ⟨.up, fun _ => true, false⟩

/-- The written form of a number in a cell. -/
def numberText (x : Binary64) : String :=
  if x.isNaN then "NaN"
  else if x.isInfinite then (if x.negative then "-inf" else "inf")
  else String.ofList (x.write numberLayout)

/-- The whole numbers that are written digit by digit lie below this bound. -/
def wholeBound : Nat := 0x8000000000000000

/-- The exact whole number that a number stands for, if it is small enough to be written
digit by digit. -/
def whole? (x : Binary64) : Option Int :=
  match x.toInt? with
  | some i => if i.natAbs < wholeBound then some i else none
  | none => none

/-- Whether a cell says nothing: it is empty or not a number. -/
def isNull : Cell → Bool
  | .empty => true
  | .number x => x.isNaN
  | .text _ => false
  | .bool _ => false

/-- The text a cell is read as. -/
def toText? : Cell → Option String
  | .empty => none
  | .text s => some s
  | .bool b => some (if b then "true" else "false")
  | .number x =>
    if x.isNaN then none
    else
      match whole? x with
      | some i => some (String.ofList (decimalText i))
      | none => some (numberText x)

/-- Trims a text cell and makes a blank one empty. -/
def normalize : Cell → Cell
  | .text s => if isBlankText s then .empty else .text (trim s)
  | c => c

/-- What a cell says about the place of its row. -/
def position : Cell → Position
  | .number x => .number x
  | .bool b => .number (if b then .one else .zero)
  | .empty => .text ""
  | .text s =>
    match Binary64.read? (trimChars s.toList) with
    | some x => .number x
    | none => .text s

/-- Compares two cells by position. -/
def cmpPosition (a b : Cell) : Ordering := a.position.cmp b.position

/-- Whether a cell comes before another one or is level with it. -/
def positionLE (a b : Cell) : Bool := a.cmpPosition b != .gt

/-- Whether all of a record's cells are null or blank. -/
def isBlankRecord (record : List Cell) : Bool :=
  record.all fun
    | .text s => isBlankText s
    | c => c.isNull

end Cell

/-- A sheet as it is read: the headers, and the records below them. -/
structure Table where
  headers : List String
  records : List (List Cell)
  deriving Repr

end Medallion
