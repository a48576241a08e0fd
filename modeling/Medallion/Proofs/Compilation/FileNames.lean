import Medallion.Proofs.Artifact.FileName
import Medallion.Proofs.Artifact.Generators
import Medallion.Proofs.Compilation.Compile
import Medallion.Proofs.Names

/-!
# The names of the files of a run

A run writes five kinds of files.  `Job.labels` has what their names are made of, in the
order of writing (`Job.Yields.entries_names`).  If the domain and the target tables have
plain names, so have the files (`Job.Yields.isPlain_entry`).

Only one file has the name of a target schema, and it holds that schema
(`Job.Yields.schema_of_entry`, `Job.Yields.schema_unique`).  In particular no echoed schema
has this name, though an echo is named like a schema: it has the tier that feeds the run's
own tier.
-/

namespace Medallion

open CompiledArtifacts

/-! ## Rows -/

section Rows

variable {spec : Specification}

theorem Linkage.mem_pairs {rows : List MappingRow} {source target : String} :
    (source, target) ∈ pairs rows ↔
      ∃ row ∈ rows, row.sourceTable = some source ∧ row.targetTable = some target := by
  rw [pairs, List.mem_eraseDups, List.mem_filterMap]
  refine exists_congr fun row => and_congr_right fun _ => ?_
  unfold pair?
  cases row.sourceTable <;> cases row.targetTable <;> simp

/-- The first target table of a source stands in a row with it. -/
theorem Specification.exists_row_of_firstTarget? {source target : String}
    (hfirst : spec.firstTarget? source = some target) :
    ∃ row ∈ spec.rows, row.sourceTable = some source ∧ row.targetTable = some target := by
  obtain ⟨row, hrow, htarget⟩ := List.exists_of_findSome?_eq_some hfirst
  rw [rowsOfSource, List.mem_filter, beq_iff_eq] at hrow
  exact ⟨row, hrow.1, hrow.2, htarget⟩

end Rows

/-! ## Labels -/

/-- What a file name is made of: the kind of the artifact, a tier, and a name. -/
abbrev FileLabel := ArtifactKind × Tier × String

def FileLabel.fileName (label : FileLabel) : String := label.1.fileName label.2.1 label.2.2

theorem FileLabel.fileName_injective : Function.Injective FileLabel.fileName := by
  rintro ⟨kind, tier, name⟩ ⟨kind', tier', name'⟩ h
  obtain ⟨rfl, rfl, rfl⟩ := ArtifactKind.fileName_inj.mp h
  rfl

/-- The target tables for which the echoed schemas of a job are named. -/
def Job.echoTargets (job : Job) : List String :=
  job.spec.sourceTables.filterMap fun table =>
    (job.schemas.schema? table).bind fun _ => job.spec.firstTarget? table

/-- The labels of the files of a job, in the order of writing. -/
def Job.labels (job : Job) (feeder : Tier) : List FileLabel :=
  (.targetTables, job.tier, job.domain) ::
    (job.echoTargets.map fun table => (.schema, feeder, table)) ++
    (job.spec.targetTables.map fun table => (.schema, job.tier, table)) ++
    ((Linkage.pairs job.spec.rows).map fun pair => (.linkage, job.tier, pair.2)) ++
    (job.spec.targetTables.map fun table => (.mapping, job.tier, table))

theorem Job.map_echoes {job : Job} {feeder : Tier}
    (hfeeder : job.rules.feeder job.tier = some feeder) :
    job.echoes.map (·.1) = job.echoTargets.map fun table => schemaFileName feeder table := by
  unfold echoes echoTargets
  rw [hfeeder]
  dsimp only
  rw [List.map_filterMap, List.map_filterMap]
  congr 1
  funext table
  cases job.schemas.schema? table with
  | none => rfl
  | some schema => cases job.spec.firstTarget? table <;> rfl

theorem Job.Yields.entries_names {job : Job} {output : OutputSettings} {audit : AuditProvider}
    {a : CompiledArtifacts} {feeder : Tier} (hyields : job.Yields output audit a)
    (hfeeder : job.rules.feeder job.tier = some feeder) :
    a.entries.map (·.1) = (job.labels feeder).map FileLabel.fileName := by
  have hschemas := TargetSchema.fileNames_of_ofJob hyields.targetSchemas
  have hsets := MappingSet.fileNames_of_ofJob hyields.mappings
  have hechoes := job.map_echoes hfeeder
  obtain ⟨feeder', hfeeder', hlinkages⟩ := Linkage.ofJob_eq_ok.mp hyields.linkages
  simp only [entries, labels, List.map_append, List.map_cons, List.map_map, Function.comp_def,
    hyields.tier, hyields.domain, hyields.sourceSchemas, hschemas, hsets, hlinkages,
    hyields.targetTables, hechoes]
  rfl

/-! ## The file of a target schema -/

section Schemas

variable {job : Job} {output : OutputSettings} {audit : AuditProvider} {a : CompiledArtifacts}
  {feeder : Tier}

/-- What holds a schema of the job's own tier is the schema of a target table. -/
theorem Job.Yields.schema_of_entry (hyields : job.Yields output audit a)
    (hfeeder : job.rules.feeder job.tier = some feeder) (hne : feeder ≠ job.tier)
    {file : String × Json} {table : String} (hfile : file ∈ a.entries)
    (hname : file.1 = schemaFileName job.tier table) :
    ∃ schema ∈ a.targetSchemas, schema.tableName = table ∧ file.2 = schema.toJson := by
  rw [ArtifactKind.schema_fileName] at hname
  simp only [entries, List.mem_append, List.mem_cons, List.mem_map] at hfile
  rcases hfile with (((rfl | ⟨echo, hecho, rfl⟩) | ⟨schema, hschema, rfl⟩) | ⟨l, -, rfl⟩) |
    ⟨set, -, rfl⟩
  · rw [ArtifactKind.targetTables_fileName, ArtifactKind.fileName_inj] at hname
    exact absurd hname.1 (by decide)
  · have hmem : echo.1 ∈ job.echoes.map (·.1) := by
      rw [← hyields.sourceSchemas]
      exact List.mem_map_of_mem hecho
    rw [job.map_echoes hfeeder] at hmem
    obtain ⟨target, -, htarget⟩ := List.mem_map.mp hmem
    rw [← htarget, ArtifactKind.schema_fileName, ArtifactKind.fileName_inj] at hname
    -- an echo has the tier that feeds the job's own
    exact absurd hname.2.1 hne
  · rw [TargetSchema.fileName, ArtifactKind.schema_fileName, ArtifactKind.fileName_inj] at hname
    exact ⟨schema, hschema, hname.2.2, rfl⟩
  · rw [ArtifactKind.linkage_fileName, ArtifactKind.fileName_inj] at hname
    exact absurd hname.1 (by decide)
  · rw [ArtifactKind.mapping_fileName, ArtifactKind.fileName_inj] at hname
    exact absurd hname.1 (by decide)

/-- A job that yields artifacts is fed by a tier, and by another one if no tier feeds itself. -/
theorem Job.Yields.exists_feeder (hyields : job.Yields output audit a)
    (hfeeder : job.rules.feeder job.tier ≠ some job.tier) :
    ∃ feeder, job.rules.feeder job.tier = some feeder ∧ feeder ≠ job.tier := by
  obtain ⟨feeder, hsome, -⟩ := Linkage.ofJob_eq_ok.mp hyields.linkages
  refine ⟨feeder, hsome, ?_⟩
  rintro rfl
  exact hfeeder hsome

theorem Job.Yields.ofTable_of_mem (hyields : job.Yields output audit a)
    {schema : TargetSchema} (hschema : schema ∈ a.targetSchemas) :
    TargetSchema.ofTable job audit schema.tableName = .ok schema ∧
      schema.domain = job.domain := by
  obtain ⟨table, -, hof⟩ :=
    exists_of_forall₂_right (TargetSchema.ofJob_eq_ok.mp hyields.targetSchemas) hschema
  obtain ⟨_, _, _, _, _, _, heq⟩ := TargetSchema.ofTable_eq_ok hof
  have htable : schema.tableName = table := by rw [heq]
  have hdomain : schema.domain = job.domain := by rw [heq]
  rw [htable]
  exact ⟨hof, hdomain⟩

/-- A job has one schema for a target table. -/
theorem Job.Yields.schema_unique (hyields : job.Yields output audit a)
    {schema schema' : TargetSchema} (hschema : schema ∈ a.targetSchemas)
    (hschema' : schema' ∈ a.targetSchemas) (htable : schema.tableName = schema'.tableName) :
    schema = schema' := by
  have hof := (hyields.ofTable_of_mem hschema).1
  rw [htable, (hyields.ofTable_of_mem hschema').1] at hof
  exact (Except.ok.inj hof).symm

end Schemas

/-! ## Plain names -/

/-- Whether all target tables of a specification have plain names. -/
structure Specification.PlainTargets (spec : Specification) : Prop where
  tables : ∀ table ∈ spec.targetTables, Path.IsPlain table
  rows : ∀ row ∈ spec.rows, ∀ table ∈ row.targetTable, Path.IsPlain table

theorem Job.isPlain_of_label {job : Job} {feeder : Tier} {label : FileLabel}
    (hspec : job.spec.PlainTargets) (hdomain : Path.IsPlain job.domain)
    (hlabel : label ∈ job.labels feeder) : Path.IsPlain label.2.2 := by
  simp only [labels, List.mem_append, List.mem_cons, List.mem_map] at hlabel
  rcases hlabel with (((rfl | ⟨table, htable, rfl⟩) | ⟨table, htable, rfl⟩) |
    ⟨⟨source, target⟩, hpair, rfl⟩) | ⟨table, htable, rfl⟩
  · exact hdomain
  · obtain ⟨source, -, hsource⟩ := List.mem_filterMap.mp htable
    obtain ⟨_, _, hfirst⟩ := Option.bind_eq_some_iff.mp hsource
    obtain ⟨row, hrow, -, htarget⟩ := Specification.exists_row_of_firstTarget? hfirst
    exact hspec.rows row hrow _ htarget
  · exact hspec.tables _ htable
  · obtain ⟨row, hrow, -, htarget⟩ := Linkage.mem_pairs.mp hpair
    exact hspec.rows row hrow _ htarget
  · exact hspec.tables _ htable

/-- With plain names all files of a run have plain names. -/
theorem Job.Yields.isPlain_entry {job : Job} {output : OutputSettings} {audit : AuditProvider}
    {a : CompiledArtifacts} {feeder : Tier} {file : String × Json}
    (hyields : job.Yields output audit a) (hfeeder : job.rules.feeder job.tier = some feeder)
    (hspec : job.spec.PlainTargets) (hdomain : Path.IsPlain job.domain)
    (hfile : file ∈ a.entries) : Path.IsPlain file.1 := by
  have hname : file.1 ∈ a.entries.map (·.1) := List.mem_map_of_mem hfile
  rw [hyields.entries_names hfeeder] at hname
  obtain ⟨label, hlabel, heq⟩ := List.mem_map.mp hname
  have hplain := job.isPlain_of_label hspec hdomain hlabel
  rw [← heq]
  exact ArtifactKind.isPlain_fileName label.1 label.2.1 hplain.no_slash hplain.no_null

end Medallion
