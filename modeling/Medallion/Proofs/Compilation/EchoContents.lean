import Medallion.Proofs.Compilation.Echo
import Medallion.Proofs.Compilation.MappingContents
import Medallion.Proofs.Compilation.SchemaContents

/-!
# What the echoes contain and what they leave alone

The landing zone is echoed with all its columns as strings.  That is a copy: the schemas of the
target tables and the mapping sets of the same run have the types of the schemas that the
resolver has answered with, not those of the echoes.

`Compiler.job` is the job of a run, put together from the answers of the resolver as they are.
Every run that compiles has it for its job (`Compiler.yields_job`), so what follows from the
rules for schemas and mapping sets holds with these answers.  `source_schemas_echoed` says
which source tables are echoed, under which names and in which form, and that the types of the
run come from the answers.

Nothing is assumed about where the specification comes from.  The sort columns and the
partition columns of the schemas, which do not depend on the source schemas, are left out.
-/

namespace Medallion

/-! ## Which schemas are echoed -/

/-- Whether a target table is named by a row of a source table, and by no row in front of it
is any. -/
def Specification.IsFirstTarget (spec : Specification) (source target : String) : Prop :=
  ∃ before row after, spec.rowsOfSource source = before ++ row :: after ∧
    row.targetTable = some target ∧ ∀ r ∈ before, r.targetTable = none

theorem Specification.firstTarget?_eq_some_iff {spec : Specification} {source target : String} :
    spec.firstTarget? source = some target ↔ spec.IsFirstTarget source target :=
  List.findSome?_eq_some_iff

theorem Specification.echoedTables_eq (spec : Specification) :
    spec.echoedTables = spec.sourceTables.filter fun table =>
      (spec.rowsOfSource table).any (·.targetTable.isSome) := by
  unfold echoedTables
  apply List.filter_congr
  intro table _
  rw [Bool.eq_iff_iff, firstTarget?, List.findSome?_isSome_iff, List.any_eq_true]

/-- The form in which a schema is echoed: as it is, unless it comes from the landing zone,
where all columns are strings. -/
inductive SourceSchema.EchoedAs (schema : SourceSchema) : Tier → SourceSchema → Prop
  | landed :
      EchoedAs schema .landingZone
        ⟨schema.domain, schema.tableName, schema.extra,
          schema.columns.map fun column => ⟨column.name, "string"⟩⟩
  | unchanged {feeder : Tier} (hfeeder : feeder ≠ .landingZone) :
      EchoedAs schema feeder schema

theorem SourceSchema.echoedAs_echo (schema : SourceSchema) (feeder : Tier) :
    schema.EchoedAs feeder (schema.echo feeder) := by
  by_cases hfeeder : feeder = .landingZone
  · subst hfeeder
    exact .landed
  · rw [schema.echo_of_ne hfeeder]
    exact .unchanged hfeeder

namespace Compiler

variable (c : Compiler) (spec : Specification) (domain : String) (tier feeder : Tier)

/-- Whether a file is the echo of a source table: it has the name of the first target table of
the source table, and it holds what the resolver answers for the source table in the form in
which schemas are echoed. -/
structure IsEcho (table : String) (file : String × SourceSchema) : Prop where
  named : ∃ target, spec.IsFirstTarget table target ∧
    file.1 = feeder.name ++ "_schema_" ++ target ++ ".json"
  answered : ∃ schema, (c.resolver domain tier table).answer = .ok schema ∧
    schema.EchoedAs feeder file.2

/-! ## The answers that a run works on -/

/-- What the resolver answers for some tables. -/
def answers (tables : List String) : SchemaCache :=
  tables.filterMap fun table =>
    match (c.resolver domain tier table).answer with
    | .ok schema => some (table, schema)
    | .error _ => none

/-- The job of a specification with what the resolver answers for its source tables. -/
def job : Job := ⟨domain, tier, c.rules, spec, c.answers domain tier spec.sourceTables⟩

variable {c spec domain tier}

theorem answers_of_resolveAll {tables : List String} {schemas : SchemaCache}
    (hresolved : (resolveAll c.resolver domain tier tables).answer = .ok schemas) :
    c.answers domain tier tables = schemas := by
  have hpairs := resolveAll_eq_ok.mp hresolved
  clear hresolved
  induction hpairs with
  | nil => rfl
  | @cons table entry tables schemas hentry _ ih =>
    obtain ⟨rfl, hanswer⟩ := hentry
    unfold answers at ih ⊢
    rw [List.filterMap_cons, hanswer, ih]

/-- A run that compiles has worked on the answers of the resolver. -/
theorem yields_job {a : CompiledArtifacts}
    (hcompile : (c.compile spec domain tier).answer = .ok a) :
    (∀ table ∈ spec.sourceTables, ∃ schema,
      (c.job spec domain tier).schemas.schema? table = some schema ∧
        (c.resolver domain tier table).answer = .ok schema) ∧
      (c.job spec domain tier).Yields c.output c.audit a := by
  obtain ⟨schemas, hvalidate, hyields⟩ := compile_eq_ok.mp hcompile
  have hresolved := resolved_of_validate hvalidate
  unfold job
  rw [answers_of_resolveAll hresolved]
  refine ⟨?_, hyields⟩
  intro table htable
  obtain ⟨schema, hschema⟩ := exists_schema?_of_mem hresolved htable
  exact ⟨schema, hschema, (schema?_eq_some hresolved hschema).2⟩

end Compiler

/-- Whether the schema of a target table has the columns that the rows of the table have in a
job, in their order, between the merge key and the audit columns. -/
def TargetSchema.HasColumnsOf (job : Job) (audit : AuditProvider) (table : String)
    (schema : TargetSchema) : Prop :=
  schema.tableName = table ∧ ∃ columns auditColumns,
    List.Forall₂ (ColumnOf job (job.spec.rowsOfTarget table)) (job.spec.rowsOfTarget table)
      columns ∧
    audit job.tier = .ok auditColumns ∧
    schema.columns = (if job.tier.merges then [⟨"MergeKey", "string"⟩] else []) ++ columns ++
      auditColumns

theorem TargetSchema.hasColumnsOf_of_ofTable {job : Job} {audit : AuditProvider} {table : String}
    {schema : TargetSchema} (hschema : ofTable job audit table = .ok schema) :
    HasColumnsOf job audit table schema := by
  obtain ⟨source, columns, auditColumns, hsource, hcolumns, haudit, rfl⟩ := ofTable_eq_ok hschema
  refine ⟨rfl, columns, auditColumns, ?_, haudit, rfl⟩
  exact hcolumns.imp fun row column hcolumn => (rowColumn_eq_ok_iff hsource).mp hcolumn

/-- The echoes of a run are those of the source tables one of whose rows names a target table,
in their order, each once.  The types in the schemas and in the mapping sets of the run are
those of the resolver's answers. -/
theorem source_schemas_echoed {c : Compiler} {spec : Specification} {domain : String}
    {tier feeder : Tier} {a : CompiledArtifacts} (hfeeder : c.rules.feeder tier = some feeder)
    (hcompile : (c.compile spec domain tier).answer = .ok a) :
    spec.sourceTables.Nodup ∧
      List.Forall₂ (c.IsEcho spec domain tier feeder)
        (spec.sourceTables.filter fun table =>
          (spec.rowsOfSource table).any (·.targetTable.isSome)) a.sourceSchemas ∧
      List.Forall₂ (TargetSchema.HasColumnsOf (c.job spec domain tier) c.audit)
        spec.targetTables a.targetSchemas ∧
      List.Forall₂ (MappingSet.IsSetOf (c.job spec domain tier) feeder)
        spec.targetTables a.mappings := by
  obtain ⟨hcached, hyields⟩ := Compiler.yields_job hcompile
  refine ⟨spec.nodup_sourceTables, ?_, ?_, ?_⟩
  · rw [← spec.echoedTables_eq, hyields.sourceSchemas]
    have hechoes := @Job.forall₂_echoes (c.job spec domain tier) feeder hfeeder fun table htable =>
      (hcached table htable).imp fun _ => And.left
    refine ((List.forall₂_and_left _ _).mpr ⟨fun _ => id, hechoes⟩).imp ?_
    rintro table file ⟨htable, schema, target, hschema, htarget, rfl⟩
    obtain ⟨answer, hanswer, hresolved⟩ :=
      hcached table (Specification.mem_echoedTables.mp htable).1
    obtain rfl : answer = schema := Option.some.inj (hanswer.symm.trans hschema)
    exact ⟨⟨target, Specification.firstTarget?_eq_some_iff.mp htarget, rfl⟩,
      ⟨answer, hresolved, answer.echoedAs_echo feeder⟩⟩
  · exact (TargetSchema.ofJob_eq_ok.mp hyields.targetSchemas).imp fun _ _ =>
      TargetSchema.hasColumnsOf_of_ofTable
  · obtain ⟨feeder', hfeeder', hsets⟩ := MappingSet.ofJob_eq_ok.mp hyields.mappings
    obtain rfl : feeder' = feeder := Option.some.inj (hfeeder'.symm.trans hfeeder)
    exact hsets.imp fun _ _ => MappingSet.ofTable_eq_ok_iff.mp

/-! ## Rows without target tables -/

namespace UntargetedRows

/-- The first row of `A` names no target table, and no row of `B` does. -/
def spec : Specification :=
  .ofTable ⟨Header.all,
    [[.text "A", .text "id"],
      [.text "A", .text "id", .text "U", .text "X"],
      [.text "B", .text "id"],
      [.text "A", .text "id", .text "T", .text "Y"]]⟩

def artifacts : CompiledArtifacts where
  domain := "sales"
  tier := .bronze
  targetTables := ⟨.ingest, .bronze, none, none, ["U", "T"]⟩
  sourceSchemas := [("landing-zone_schema_U.json", ⟨"sales", "A", [], [⟨"id", "string"⟩]⟩)]
  targetSchemas :=
    [⟨"sales", "U", [], ["IngestDate"], [⟨"X", "integer"⟩]⟩,
      ⟨"sales", "T", [], ["IngestDate"], [⟨"Y", "integer"⟩]⟩]
  linkages :=
    [⟨.landingZone, "cura", "A", .bronze, "cura", "U"⟩,
      ⟨.landingZone, "cura", "A", .bronze, "cura", "T"⟩]
  mappings :=
    [⟨"sales", "U", .landingZone, .bronze, [⟨"X", .integer, .direct "id" .integer⟩]⟩,
      ⟨"sales", "T", .landingZone, .bronze, [⟨"Y", .integer, .direct "id" .integer⟩]⟩]

theorem compile : (TwoSources.compiler.compile spec "sales" .bronze).answer = .ok artifacts := by
  with_unfolding_all rfl

end UntargetedRows

open UntargetedRows in
/-- Only `A` is echoed, as strings, and the columns that are read from it are integers. -/
theorem source_schemas_echoed_untargetedRows :
    TwoSources.compiler.rules.feeder .bronze = some .landingZone ∧
      spec.sourceTables = ["A", "B"] ∧
      List.Forall₂ (TwoSources.compiler.IsEcho spec "sales" .bronze .landingZone) ["A"]
        [("landing-zone_schema_U.json", ⟨"sales", "A", [], [⟨"id", "string"⟩]⟩)] ∧
      List.Forall₂
        (TargetSchema.HasColumnsOf (TwoSources.compiler.job spec "sales" .bronze)
          TwoSources.compiler.audit) ["U", "T"]
        [⟨"sales", "U", [], ["IngestDate"], [⟨"X", "integer"⟩]⟩,
          ⟨"sales", "T", [], ["IngestDate"], [⟨"Y", "integer"⟩]⟩] := by
  have hfeeder : TwoSources.compiler.rules.feeder .bronze = some .landingZone := rfl
  have hsources : spec.sourceTables = ["A", "B"] := by with_unfolding_all rfl
  have hechoed : (spec.sourceTables.filter fun table =>
      (spec.rowsOfSource table).any (·.targetTable.isSome)) = ["A"] := by with_unfolding_all rfl
  have htargets : spec.targetTables = ["U", "T"] := by with_unfolding_all rfl
  obtain ⟨-, hechoes, hschemas, -⟩ := source_schemas_echoed hfeeder compile
  rw [hechoed] at hechoes
  rw [htargets] at hschemas
  exact ⟨hfeeder, hsources, hechoes, hschemas⟩

end Medallion
