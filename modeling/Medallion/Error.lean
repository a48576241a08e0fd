import Medallion.File.Path
import Medallion.Tier

/-!
# Errors

`MapError` has a constructor for each cause that a run can fail for.  Where a cause has
several reasons, these are a type of their own.  The wording is in the functions `message`
only.

Some reasons are worded by a collaborator that this library does not know, such as a
database: these are texts (`detail`).  A problem of a generator can be `stated` in words
too, by a caller that has generators of its own.

`MapError.kind` groups the errors by the stage they belong to.  Only a malformed
transformation function is recoverable: its row is left out.
-/

namespace Medallion

/-- The stage that an error belongs to. -/
inductive ErrorKind where
  | input
  | validation
  | schemaResolution
  | generation
  | persistence
  deriving DecidableEq, Repr

/-- A column that a row reads and the schema of its table does not have. -/
structure InvalidColumn where
  table : String
  column : String
  deriving DecidableEq, Repr

/-- Why an input file cannot be read. -/
inductive ReadProblem where
  | noWorksheets
  | detail (text : String)
  deriving DecidableEq, Repr

/-- Why there are no audit columns. -/
inductive AuditProblem where
  | cannotRead (file : Path) (detail : String)
  | cannotParse (file : Path) (detail : String)
  | areaNotFound (file : Path)
  | notAList
  | invalidColumn (detail : String)
  | notConfigured
  | stated (text : String)
  deriving DecidableEq, Repr

/-- Why a target schema cannot be generated. -/
inductive SchemaProblem where
  | noRows
  | unresolvedTable (table : String)
  | noTargetColumn (line : Nat)
  | unknownColumn (column table : String)
  | columnWithoutTable (column : String)
  | audit (tier : Tier) (problem : AuditProblem)
  | stated (text : String)
  deriving DecidableEq, Repr

/-- Why pipeline linkages or column mappings cannot be generated. -/
inductive MappingProblem where
  | noFeeder (tier : Tier)
  | noTargetColumn (line : Nat)
  | unresolvedColumn (table column : String)
  | stated (text : String)
  deriving DecidableEq, Repr

/-- Why a run fails. -/
inductive MapError where
  | inputNotFound (file : Path)
  | unsupportedFormat (file : Path)
  | emptyInput (file : Path)
  | unreadableInput (file : Path) (problem : ReadProblem)
  | unconfiguredTier (tier : Tier)
  | missingColumns (headers : List String)
  | noSourceTables (tier : Tier)
  | invalidSourceColumns (columns : List InvalidColumn)
  | unresolvedSchema (tier : Tier)
  | artifactNotFound (file : Path)
  | malformedArtifact (file : Path) (detail : String)
  | secret (vault name detail : String)
  | introspection (table detail : String)
  | auditColumns (tier : Tier) (problem : AuditProblem)
  | schemaGeneration (table : String) (problem : SchemaProblem)
  | pipelineGeneration (problem : MappingProblem)
  | mappingGeneration (table : String) (problem : MappingProblem)
  | emptyMapping (table : String)
  | malformedTransformation (table column detail : String)
  | createDirectory (directory : Path) (detail : String)
  | write (file : Path) (detail : String)
  deriving DecidableEq, Repr

/-- A column with its table. -/
def InvalidColumn.text (c : InvalidColumn) : String := c.table ++ "." ++ c.column

/-- The wording of a problem with an input file. -/
def ReadProblem.message : ReadProblem → String
  | .noWorksheets => "workbook has no worksheets"
  | .detail text => text

/-- The wording of a problem with audit columns. -/
def AuditProblem.message : AuditProblem → String
  | .cannotRead file detail => "cannot read " ++ file.text ++ ": " ++ detail
  | .cannotParse file detail => "cannot parse " ++ file.text ++ ": " ++ detail
  | .areaNotFound file => "data area not found in " ++ file.text
  | .notAList => "audit_columns is not a list"
  | .invalidColumn detail => "invalid audit column: " ++ detail
  | .notConfigured => "data area not configured"
  | .stated text => text

/-- The wording of missing audit columns. -/
def AuditProblem.report (tier : Tier) (problem : AuditProblem) : String :=
  "Audit columns unavailable for data area '" ++ tier.name ++ "': " ++ problem.message

/-- The wording of a problem with a target schema. -/
def SchemaProblem.message : SchemaProblem → String
  | .noRows => "no mapping rows"
  | .unresolvedTable table => "no schema resolved for source table " ++ table
  | .noTargetColumn line => "row " ++ toString line ++ " has no target column"
  | .unknownColumn column table => "source column " ++ column ++ " not in " ++ table
  | .columnWithoutTable column => "source column " ++ column ++ " has no source table"
  | .audit tier problem => problem.report tier
  | .stated text => text

/-- The wording of a problem with linkages or mappings. -/
def MappingProblem.message : MappingProblem → String
  | .noFeeder tier => "no upstream data area for " ++ tier.name
  | .noTargetColumn line => "row " ++ toString line ++ " has no target column"
  | .unresolvedColumn table column =>
    "source column " ++ table ++ "." ++ column ++ " not resolved"
  | .stated text => text

namespace MapError

/-- The wording of an error. -/
def message : MapError → String
  | inputNotFound file => "Input file " ++ file.text ++ " does not exist"
  | unsupportedFormat file =>
    "Unsupported file format for " ++ file.text ++
      "; only spreadsheet (.xlsx) and .csv files are supported"
  | emptyInput file => "Input file " ++ file.text ++ " is empty"
  | unreadableInput file problem =>
    "Failed to read input file " ++ file.text ++ ": " ++ problem.message
  | unconfiguredTier tier =>
    "No required columns configured for target data area '" ++ tier.name ++ "'"
  | missingColumns headers =>
    "Mapping file is missing required columns: " ++ ", ".intercalate headers
  | noSourceTables tier =>
    "Mapping file names no source tables for target data area '" ++ tier.name ++ "'"
  | invalidSourceColumns columns =>
    "Mapping file contains invalid source columns: " ++
      ", ".intercalate (columns.map InvalidColumn.text)
  | unresolvedSchema tier =>
    "Cannot resolve source schema for target data area '" ++ tier.name ++
      "': no upstream data area"
  | artifactNotFound file => "Schema artifact not found: " ++ file.text
  | malformedArtifact file detail =>
    "Malformed JSON artifact " ++ file.text ++ ": " ++ detail
  | secret vault name detail =>
    "Secret '" ++ name ++ "' unavailable in vault '" ++ vault ++ "': " ++ detail
  | introspection table detail =>
    "Failed to introspect table '" ++ table ++ "': " ++ detail
  | auditColumns tier problem => problem.report tier
  | schemaGeneration table problem =>
    "Error generating target schema for " ++ table ++ ": " ++ problem.message
  | pipelineGeneration problem =>
    "Error generating pipeline configuration: " ++ problem.message
  | mappingGeneration table problem =>
    "Error generating mapping configuration for " ++ table ++ ": " ++ problem.message
  | emptyMapping table => "Mapping configuration for " ++ table ++ " has no columns"
  | malformedTransformation table column detail =>
    "Malformed transformation function for " ++ table ++ "." ++ column ++ ": " ++ detail
  | createDirectory directory detail =>
    "Error creating output folder '" ++ directory.text ++ "': " ++ detail
  | write file detail => "Error writing to file '" ++ file.text ++ "': " ++ detail

/-- The stage that an error belongs to. -/
def kind : MapError → ErrorKind
  | inputNotFound _ | unsupportedFormat _ | emptyInput _ | unreadableInput _ _ => .input
  | unconfiguredTier _ | missingColumns _ | noSourceTables _ | invalidSourceColumns _ =>
    .validation
  | unresolvedSchema _ | artifactNotFound _ | malformedArtifact _ _ | secret _ _ _
  | introspection _ _ => .schemaResolution
  | auditColumns _ _ | schemaGeneration _ _ | pipelineGeneration _ | mappingGeneration _ _
  | emptyMapping _ | malformedTransformation _ _ _ => .generation
  | createDirectory _ _ | write _ _ => .persistence

/-- Whether a run goes on after the error, without the row it belongs to. -/
def isRecoverable : MapError → Bool
  | malformedTransformation _ _ _ => true
  | _ => false

end MapError

end Medallion
