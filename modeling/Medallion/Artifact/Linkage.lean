import Medallion.Job

/-!
# Pipeline linkages

A linkage connects a source table to a target table that it feeds.  A job has one linkage
for each pair of tables that stand in a row together, in the order of the first such rows.
Rows that lack one of the two have none.
-/

namespace Medallion

/-- The connection of a source table to a target table. -/
structure Linkage where
  sourceTier : Tier
  sourcePath : String
  sourceTable : String
  targetTier : Tier
  targetPath : String
  targetTable : String
  deriving DecidableEq, Repr

namespace Linkage

/-- The two tables of a row. -/
def pair? (row : MappingRow) : Option (String × String) :=
  match row.sourceTable, row.targetTable with
  | some source, some target => some (source, target)
  | _, _ => none

/-- The pairs of tables of some rows, each once, in the order of their first rows. -/
def pairs (rows : List MappingRow) : List (String × String) :=
  (rows.filterMap pair?).eraseDups

/-- The linkages of a job. -/
def ofJob (job : Job) (tablePath : String) : Except MapError (List Linkage) :=
  match job.rules.feeder job.tier with
  | none => .error (.pipelineGeneration (.noFeeder job.tier))
  | some feeder =>
    .ok ((pairs job.spec.rows).map fun (source, target) =>
      ⟨feeder, tablePath, source, job.tier, tablePath, target⟩)

/-- The name of a linkage's file. -/
def fileName (linkage : Linkage) : String :=
  linkage.targetTier.name ++ "_pipeline_" ++ linkage.targetTable ++ ".json"

end Linkage

end Medallion
