import Medallion.Job

/-!
# Schemas of target tables

The schema of a target table has one column for each row of the table, in the order of the
rows, then the audit columns of the tier.

* A row without a source column has the type it declares.  Any other row has the type of
  its source column in the schema of the first source table that the rows of the target
  name.
* The sort columns are the columns of the rows with an `Order By` cell, in the order of
  these cells; rows that are level keep their order.  The partition columns are the same
  with `Partition By`.
* A table that is merged has the merge key in front of its columns and at the end of its
  sort columns.  Any other table has the ingest date at the end of its partition columns.
-/

namespace Medallion

/-- The schema of a target table. -/
structure TargetSchema where
  domain : String
  tableName : String
  sortColumns : List String
  partitionColumns : List String
  columns : List Column
  deriving DecidableEq, Repr

/-- Who knows the audit columns of a tier. -/
abbrev AuditProvider := Tier → Except AuditProblem (List Column)

namespace TargetSchema

/-- The target columns of the rows that have a cell, in the order of the cells. -/
def positioned (cell : MappingRow → Cell) (rows : List MappingRow) : List String :=
  let ranked := (rows.filter fun r => !(cell r).isNull).mergeSort fun a b =>
    (cell a).positionLE (cell b)
  Name.cleanse (ranked.map (·.targetColumn))

/-- The schema of the first source table that some rows name, if they name one. -/
def sourceSchema (job : Job) (rows : List MappingRow) :
    Except SchemaProblem (Option SourceSchema) :=
  match rows.findSome? (·.sourceTable) with
  | none => .ok none
  | some table =>
    match job.schemas.schema? table with
    | some schema => .ok (some schema)
    | none => .error (.unresolvedTable table)

/-- The data type of a row. -/
def rowType (rules : Rules) (source : Option SourceSchema) (row : MappingRow) :
    Except SchemaProblem DataType :=
  match row.sourceColumn, source with
  | none, _ => .ok (rules.mapOptionalType row.dataType)
  | some name, some schema =>
    match schema.column? name with
    | some column => .ok (rules.mapType column.type)
    | none => .error (.unknownColumn name schema.tableName)
  | some name, none => .error (.columnWithoutTable name)

/-- The column of a row. -/
def rowColumn (rules : Rules) (source : Option SourceSchema) (row : MappingRow) :
    Except SchemaProblem Column :=
  match row.targetColumn with
  | none => .error (.noTargetColumn row.line)
  | some name => (rowType rules source row).map fun type => ⟨name, type.name⟩

/-- The columns that a tier adds in front of those of the rows. -/
def keyColumns (tier : Tier) : List Column :=
  if tier.merges then [⟨mergeKey, DataType.string.name⟩] else []

/-- The schema of a table, from its rows. -/
def ofRows (job : Job) (audit : AuditProvider) (table : String) (rows : List MappingRow) :
    Except SchemaProblem TargetSchema := do
  if rows.isEmpty then .error .noRows
  else
    let source ← sourceSchema job rows
    let columns ← rows.mapM (rowColumn job.rules source)
    let auditColumns ← (audit job.tier).mapError (.audit job.tier)
    let merges := job.tier.merges
    .ok
      { domain := job.domain
        tableName := table
        sortColumns := positioned (·.orderBy) rows ++ if merges then [mergeKey] else []
        partitionColumns :=
          positioned (·.partitionBy) rows ++ if merges then [] else [ingestDate]
        columns := keyColumns job.tier ++ columns ++ auditColumns }

/-- The schema of a target table of a job. -/
def ofTable (job : Job) (audit : AuditProvider) (table : String) :
    Except MapError TargetSchema :=
  (ofRows job audit table (job.spec.rowsOfTarget table)).mapError (.schemaGeneration table)

/-- The schemas of the target tables of a job, up to the first that cannot be made. -/
def ofJob (job : Job) (audit : AuditProvider) : Except MapError (List TargetSchema) :=
  job.spec.targetTables.mapM (ofTable job audit)

/-- The name of a schema's file. -/
def fileName (schema : TargetSchema) (tier : Tier) : String :=
  schemaFileName tier schema.tableName

end TargetSchema

end Medallion
