import Medallion.Error
import Medallion.Schema

/-!
# Jobs

A job is what the generators of artifacts work on: a specification for one tier of a
domain, the rules, and the schemas of the source tables.

Two column names do not come from the specification: the merge key of a table that is
merged, and the ingest date of one that is appended to.
-/

namespace Medallion

/-- The column that a table of an upper tier is merged by. -/
def mergeKey : String := "MergeKey"

/-- The column that parts the batches of a table of a lower tier. -/
def ingestDate : String := "IngestDate"

/-- A specification for one tier of a domain, with what is needed to compile it. -/
structure Job where
  domain : String
  tier : Tier
  rules : Rules
  spec : Specification
  schemas : SchemaCache

/-- Where the settings say that tables and secrets are kept. -/
structure OutputSettings where
  tablePath : String
  storageAccount : Option String
  keyVault : Option String
  deriving DecidableEq, Repr

namespace OutputSettings

/-- The values that hold unless the settings say otherwise. -/
def default : OutputSettings := ⟨"cura", none, none⟩

instance : Inhabited OutputSettings := ⟨default⟩

end OutputSettings

/-- The name of the file with the schema of a table. -/
def schemaFileName (tier : Tier) (table : String) : String :=
  tier.name ++ "_schema_" ++ table ++ ".json"

end Medallion
