import Medallion.Name
import Medallion.Sheet.Cell

/-!
# Mapping specifications

A mapping specification has one row for each column of a target table.  It is read from a
table by its headers: `ofTable` looks each of the ten known headers up, the last column
with a header counts, and a column without a known header is not read.  A record that is
too short has empty cells at its end.

The names of tables and columns are cleansed on the way.  Rows are numbered from one.
-/

namespace Medallion

/-! ## Headers -/

namespace Header

def sourceTable : String := "Source Table Name"

def sourceColumn : String := "Source Column Name"

def targetTable : String := "Target Table Name"

def targetColumn : String := "Target Column Name"

def orderBy : String := "Order By"

def partitionBy : String := "Partition By"

def isBusinessKey : String := "Is Business Key"

def dataType : String := "Data Type"

def defaultValue : String := "Default Value"

def transformation : String := "Transformation Function"

/-- The headers of the names of tables and columns. -/
def names : List String := [sourceTable, sourceColumn, targetTable, targetColumn]

/-- All known headers. -/
def all : List String :=
  names ++ [orderBy, partitionBy, isBusinessKey, dataType, defaultValue, transformation]

end Header

/-! ## Rows -/

/-- A row of a mapping specification. -/
structure MappingRow where
  /-- The number of the row's record, from one. -/
  line : Nat
  sourceTable : Option String
  sourceColumn : Option String
  targetTable : Option String
  targetColumn : Option String
  dataType : Option String
  /-- The place of the column among the sort columns. -/
  orderBy : Cell
  /-- The place of the column among the partition columns. -/
  partitionBy : Cell
  isBusinessKey : Option String
  defaultValue : Option String
  transformation : Option String
  deriving DecidableEq, Repr

/-- The place of the last column with a header. -/
def lastColumn? (header : String) : List String → Option Nat
  | [] => none
  | h :: hs =>
    match lastColumn? header hs with
    | some i => some (i + 1)
    | none => if h = header then some 0 else none

/-- The normalized cell of a record below a header. -/
def cellBelow (headers : List String) (record : List Cell) (header : String) : Cell :=
  match lastColumn? header headers with
  | some i => (record.getD i .empty).normalize
  | none => .empty

/-- The row that a record stands for. -/
def MappingRow.ofRecord (headers : List String) (line : Nat) (record : List Cell) :
    MappingRow :=
  let text (header : String) := (cellBelow headers record header).toText?
  { line := line
    sourceTable := Name.cleanse? (text Header.sourceTable)
    sourceColumn := Name.cleanse? (text Header.sourceColumn)
    targetTable := Name.cleanse? (text Header.targetTable)
    targetColumn := Name.cleanse? (text Header.targetColumn)
    dataType := text Header.dataType
    orderBy := cellBelow headers record Header.orderBy
    partitionBy := cellBelow headers record Header.partitionBy
    isBusinessKey := text Header.isBusinessKey
    defaultValue := text Header.defaultValue
    transformation := text Header.transformation }

/-! ## Specifications -/

/-- A mapping specification: the headers of its table, and its rows. -/
structure Specification where
  headers : List String
  rows : List MappingRow
  deriving DecidableEq, Repr

namespace Specification

/-- The rows of some records, the first of which has the number `line`. -/
def rowsFrom (headers : List String) (line : Nat) : List (List Cell) → List MappingRow
  | [] => []
  | record :: rest =>
    MappingRow.ofRecord headers line record :: rowsFrom headers (line + 1) rest

/-- The specification that a table holds. -/
def ofTable (t : Table) : Specification := ⟨t.headers, rowsFrom t.headers 1 t.records⟩

/-- Whether a column has a header. -/
def hasHeader (spec : Specification) (header : String) : Bool := spec.headers.contains header

/-- The target tables, each once, in the order of their first rows. -/
def targetTables (spec : Specification) : List String :=
  Name.cleanse (spec.rows.map (·.targetTable))

/-- The source tables, each once, in the order of their first rows. -/
def sourceTables (spec : Specification) : List String :=
  Name.cleanse (spec.rows.map (·.sourceTable))

/-- The rows of a target table. -/
def rowsOfTarget (spec : Specification) (table : String) : List MappingRow :=
  spec.rows.filter fun r => r.targetTable == some table

/-- The rows of a source table. -/
def rowsOfSource (spec : Specification) (table : String) : List MappingRow :=
  spec.rows.filter fun r => r.sourceTable == some table

end Specification

end Medallion
