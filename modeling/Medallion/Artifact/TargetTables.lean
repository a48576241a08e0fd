import Medallion.Job

/-!
# The list of target tables

The first artifact of a job says what is done with a batch of data and lists the target
tables in the order of the specification.
-/

namespace Medallion

/-- What is done with a batch of data. -/
inductive Action where
  | ingest
  | merge
  deriving DecidableEq, Repr, Inhabited

namespace Action

/-- The name of an action in artifacts. -/
def name : Action → String
  | ingest => "ingest"
  | merge => "merge"

/-- The action of a name. -/
def ofName? (s : String) : Option Action := [ingest, merge].find? fun a => a.name == s

/-- Tables of the upper tiers are merged, the others are appended to. -/
def ofTier (tier : Tier) : Action := if tier.merges then merge else ingest

theorem ofName?_name (a : Action) : ofName? a.name = some a := by
  cases a <;> decide

end Action

/-- The list of the target tables of a job. -/
structure TargetTables where
  action : Action
  tier : Tier
  storageAccount : Option String
  keyVault : Option String
  tables : List String
  deriving DecidableEq, Repr

namespace TargetTables

/-- The list of a job. -/
def ofJob (job : Job) (output : OutputSettings) : TargetTables :=
  { action := .ofTier job.tier
    tier := job.tier
    storageAccount := output.storageAccount
    keyVault := output.keyVault
    tables := job.spec.targetTables }

/-- The name of the list's file. -/
def fileName (list : TargetTables) (domain : String) : String :=
  list.tier.name ++ "_target_tables_" ++ domain ++ ".json"

end TargetTables

end Medallion
