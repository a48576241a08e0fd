import Medallion.Sheet.Cell

/-!
# Workbooks

A workbook is a list of sheets, of which the first is read.  A sheet is a grid of cells
from the first column on.  The reader sees the smallest rectangle that holds every cell
that is there; its first row holds the headers, as texts.

In the rows below, error cells say nothing and dates are texts.  A sheet with an error cell
that is not one of the seven known ones is not readable.
-/

namespace Medallion

/-- A cell of a workbook. -/
inductive GridCell where
  | absent
  | text (s : String)
  | bool (b : Bool)
  | number (x : Binary64)
  /-- An error value, with its written form. -/
  | error (s : String)
  /-- A number shown as a date. -/
  | date (x : Binary64)
  /-- A date in its written form. -/
  | isoDate (s : String)
  deriving DecidableEq, Repr, Inhabited

/-- A workbook; a sheet whose content is missing is none. -/
structure Workbook where
  sheets : List (Option (List (List GridCell)))
  deriving Repr, DecidableEq

namespace GridCell

/-- The text of a cell as a header. -/
def headerText : GridCell → String
  | .absent => ""
  | .text s => s
  | .bool b => if b then "true" else "false"
  | .number x => Cell.numberText x
  | .error s => s
  | .date x => Cell.numberText x
  | .isoDate s => s

/-- The cell of a mapping sheet that a cell of a workbook stands for. -/
def toCell : GridCell → Cell
  | .absent => .empty
  | .text s => .text s
  | .bool b => .bool b
  | .number x => .number x
  | .error _ => .empty
  | .date x => .text (Cell.numberText x)
  | .isoDate s => .text s

/-- The written forms of error values. -/
def errorTexts : List String :=
  ["#DIV/0!", "#N/A", "#NAME?", "#NULL!", "#NUM!", "#REF!", "#VALUE!"]

/-- Whether a cell can be read: it is not an unknown error value. -/
def isReadable : GridCell → Bool
  | .error s => errorTexts.contains s
  | _ => true

/-- Whether there is a cell. -/
def isPresent (c : GridCell) : Bool := c != .absent

end GridCell

namespace Workbook

/-- Drops the rows at both ends that hold no cell. -/
def trimRows (rows : List (List GridCell)) : List (List GridCell) :=
  let empty (row : List GridCell) := !row.any GridCell.isPresent
  ((rows.dropWhile empty).reverse.dropWhile empty).reverse

/-- The column of the first cell in a row, if there is one. -/
def firstColumn? (row : List GridCell) : Option Nat := row.findIdx? GridCell.isPresent

/-- The number of columns up to the last cell in a row. -/
def width (row : List GridCell) : Nat :=
  (row.reverse.dropWhile fun c => !c.isPresent).length

/-- The rows of the smallest rectangle that holds every cell. -/
def rectangle (rows : List (List GridCell)) : List (List GridCell) :=
  let left := ((rows.filterMap firstColumn?).min?).getD 0
  let right := ((rows.map width).max?).getD 0
  (trimRows rows).map fun row =>
    (List.range (right - left)).map fun i => row.getD (left + i) .absent

/-- The table that a sheet holds. -/
def tableOfSheet (rows : List (List GridCell)) : Table :=
  match rectangle rows with
  | [] => ⟨[], []⟩
  | headers :: rest =>
    ⟨headers.map GridCell.headerText,
      (rest.map fun row => row.map GridCell.toCell).filter (!Cell.isBlankRecord ·)⟩

/-- Why a workbook gives no table. -/
inductive ReadError where
  | noSheets
  | missingSheet
  | unknownErrorValue
  deriving DecidableEq, Repr

/-- The table that the first sheet of a workbook holds. -/
def table (book : Workbook) : Except ReadError Table :=
  match book.sheets with
  | [] => .error .noSheets
  | none :: _ => .error .missingSheet
  | some rows :: _ =>
    if rows.all (·.all GridCell.isReadable) then .ok (tableOfSheet rows)
    else .error .unknownErrorValue

end Workbook

end Medallion
