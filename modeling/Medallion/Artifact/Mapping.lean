import Medallion.Job
import Medallion.Json.Document

/-!
# Column mappings

The mapping set of a target table says for each column where its values come from.

* A row with a source table and a source column is mapped directly, and has the type of
  that column in the schema of the row's own source table.
* Any other row has the type it declares.  Its values come from its transformation
  function, a JSON object, or from nowhere if it has none.
* A row whose transformation function is not a JSON object is left out.
* If some rows are marked as business keys, the first column is the merge key, a hash of
  the marked columns.

The member `type` of a function is always `string`.  A set without columns is an error.
-/

namespace Medallion

/-- Where the values of a column come from. -/
inductive ColumnSource where
  /-- A column of the source table. -/
  | direct (name : String) (type : DataType)
  /-- Nowhere: the column keeps its default. -/
  | empty
  /-- A function, given by the members of a JSON object. -/
  | function (members : List (String × Json))
  deriving Repr, Inhabited

/-- A column of a mapping set. -/
structure ColumnMapping where
  name : String
  type : DataType
  source : ColumnSource
  deriving Repr, Inhabited

/-- The mappings of the columns of a target table. -/
structure MappingSet where
  domain : String
  tableName : String
  source : Tier
  target : Tier
  columns : List ColumnMapping
  deriving Repr

namespace ColumnSource

/-- The function with some members; its type is a string. -/
def ofMembers (members : List (String × Json)) : ColumnSource :=
  .function (Json.setMember "type" (.text DataType.string.name) members)

/-- The function that hashes the values of some columns. -/
def keyHash (columns : List String) : ColumnSource :=
  ofMembers
    [("function", .text "key_hash"), ("params", .object [("column_names", .texts columns)])]

/-- The function that a text writes: a JSON object. -/
def parseFunction (text : String) : Except String ColumnSource :=
  match Json.parse? text with
  | some (.object members) => .ok (ofMembers members)
  | some _ => .error "transformation function is not a JSON object"
  | none => .error "transformation function is not valid JSON"

end ColumnSource

namespace MappingSet

/-- The words that mark a business key. -/
def affirmative : List String := ["y", "yes", "true", "t", "1", "x"]

/-- Whether a text marks a business key. -/
def isAffirmative (text : Option String) : Bool :=
  match text with
  | some s => affirmative.contains (Text.lower (Text.trim s))
  | none => false

/-- The columns of the rows that are marked as business keys. -/
def keyColumns (rows : List MappingRow) : List String :=
  Name.cleanse ((rows.filter fun r => isAffirmative r.isBusinessKey).map (·.targetColumn))

/-- The merge key of some rows, if the specification marks business keys. -/
def keyMapping? (spec : Specification) (rows : List MappingRow) : Option ColumnMapping :=
  if spec.hasHeader Header.isBusinessKey then
    match keyColumns rows with
    | [] => none
    | keys => some ⟨mergeKey, .string, .keyHash keys⟩
  else none

/-- The source of a row without a source column: its function, if it has one. -/
def computedSource (table name : String) (row : MappingRow) :
    Except MapError ColumnSource :=
  match row.transformation with
  | none => .ok .empty
  | some text =>
    if Text.isBlankText text then .ok .empty
    else (ColumnSource.parseFunction text).mapError (.malformedTransformation table name)

/-- The mapping of a row. -/
def rowMapping (job : Job) (table : String) (row : MappingRow) :
    Except MapError ColumnMapping :=
  match row.targetColumn with
  | none => .error (.mappingGeneration table (.noTargetColumn row.line))
  | some name =>
    match row.sourceTable, row.sourceColumn with
    | some sourceTable, some sourceColumn =>
      match (job.schemas.schema? sourceTable).bind (·.column? sourceColumn) with
      | none => .error (.mappingGeneration table (.unresolvedColumn sourceTable sourceColumn))
      | some column =>
        let type := job.rules.mapType column.type
        .ok ⟨name, type, .direct sourceColumn type⟩
    | _, _ =>
      (computedSource table name row).map fun source =>
        ⟨name, job.rules.mapOptionalType row.dataType, source⟩

/-- The mappings of some rows, without those rows that are left out. -/
def rowMappings (job : Job) (table : String) :
    List MappingRow → Except MapError (List ColumnMapping)
  | [] => .ok []
  | row :: rows =>
    match rowMapping job table row with
    | .ok column => (rowMappings job table rows).map (column :: ·)
    | .error e => if e.isRecoverable then rowMappings job table rows else .error e

/-- The mapping set of a target table. -/
def ofTable (job : Job) (feeder : Tier) (table : String) : Except MapError MappingSet := do
  let rows := job.spec.rowsOfTarget table
  let columns ← rowMappings job table rows
  match (keyMapping? job.spec rows).toList ++ columns with
  | [] => .error (.emptyMapping table)
  | columns => .ok ⟨job.domain, table, feeder, job.tier, columns⟩

/-- The mapping sets of a job, up to the first that cannot be made. -/
def ofJob (job : Job) : Except MapError (List MappingSet) :=
  match job.rules.feeder job.tier with
  | none => .error (.mappingGeneration "" (.noFeeder job.tier))
  | some feeder => job.spec.targetTables.mapM (ofTable job feeder)

/-- The name of a mapping set's file. -/
def fileName (set : MappingSet) : String :=
  set.target.name ++ "_map_" ++ set.tableName ++ ".json"

end MappingSet

end Medallion
