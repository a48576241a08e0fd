import Medallion.Error
import Medallion.File.Tree
import Medallion.Sheet.Csv
import Medallion.Specification
import Medallion.Text.Case

/-!
# Loading a specification

The extension of the file, in any case, says how it is read: `csv` as comma-separated text,
`xlsx`, `xlsm`, `xls` and `ods` as a workbook.  A file without records is refused.

Workbooks come in their decoded form.  The older formats `xls` and `ods` are not decoded,
so a workbook behind one of these extensions, spelled in lower case, is not readable.
-/

namespace Medallion

/-- The kinds of file that a mapping specification comes in. -/
inductive FileType where
  | excel
  | csv
  deriving DecidableEq, Repr, Inhabited

namespace FileType

/-- The name of a kind of file among the arguments. -/
def name : FileType → String
  | excel => "excel"
  | csv => "csv"

/-- The kind of file of a name. -/
def ofName? (s : String) : Option FileType := [excel, csv].find? fun t => t.name == s

end FileType

namespace Specification

/-- The extensions of workbooks. -/
def workbookExtensions : List String := ["xlsx", "xlsm", "xls", "ods"]

/-- The extensions, as they are spelled, whose format is not decoded. -/
def undecodedExtensions : List String := ["xls", "ods"]

/-- The table in a file of comma-separated text. -/
def csvTable (tree : FileTree) (file : Path) : Except ReadProblem Table :=
  match tree.read file with
  | .error e => .error (.detail e.message)
  | .ok (.workbook _) => .error (.detail FileError.notText.message)
  | .ok (.bytes data) =>
    match Csv.table? data.data.toList with
    | some t => .ok t
    | none => .error (.detail FileError.notText.message)

/-- The table in a workbook. -/
def workbookTable (tree : FileTree) (file : Path) : Except ReadProblem Table :=
  match tree.read file with
  | .error e => .error (.detail e.message)
  | .ok (.bytes _) => .error (.detail "the file is not a workbook")
  | .ok (.workbook book) =>
    if (file.extension?.map undecodedExtensions.contains).getD false then
      .error (.detail "the file is not a workbook")
    else
      match book.table with
      | .ok t => .ok t
      | .error .noSheets => .error .noWorksheets
      | .error .missingSheet => .error (.detail "the first worksheet is missing")
      | .error .unknownErrorValue => .error (.detail "an error value is not known")

/-- How a file with an extension is read, if it is. -/
def reader? (extension : String) : Option (FileTree → Path → Except ReadProblem Table) :=
  let e := Text.lower extension
  if e = "csv" then some csvTable
  else if workbookExtensions.contains e then some workbookTable
  else none

/-- Loads the specification in a file. -/
def load (tree : FileTree) (file : Path) : Except MapError Specification :=
  if !tree.fileExists file then .error (.inputNotFound file)
  else
    match reader? (file.extension?.getD "") with
    | none => .error (.unsupportedFormat file)
    | some read =>
      match read tree file with
      | .error problem => .error (.unreadableInput file problem)
      | .ok t => if t.records.isEmpty then .error (.emptyInput file) else .ok (ofTable t)

end Specification

end Medallion
