import Medallion.Proofs.Compilation.Feeding

/-!
# Echoed schemas

A run echoes the schema of every source table one of whose rows names a target table, in the
order of the source tables (`Specification.mem_echoedTables`, `Job.forall₂_echoes`).

The schema of a target table is written as one kind of record, read in the tier above as
another one, and written again as an echo.  Nothing is lost on the way, and the members come
back in their order.  So in a tier that is fed by bronze or silver the text of an echo is, to
the byte, what the artifact holds that it was read from (`echoes_are_stored_schemas`).

What the landing zone feeds is another matter: its columns are echoed as strings.
-/

namespace Medallion

/-- The source tables whose schemas are echoed. -/
def Specification.echoedTables (spec : Specification) : List String :=
  spec.sourceTables.filter fun table => (spec.firstTarget? table).isSome

/-- A source table is echoed if one of its rows names a target table. -/
theorem Specification.mem_echoedTables {spec : Specification} {table : String} :
    table ∈ spec.echoedTables ↔
      table ∈ spec.sourceTables ∧
        ∃ row ∈ spec.rowsOfSource table, row.targetTable.isSome = true := by
  rw [echoedTables, List.mem_filter, firstTarget?, List.findSome?_isSome_iff]

/-- Each echo is that of an echoed table, and has the name of the table's first target. -/
theorem Job.forall₂_echoes {job : Job} {feeder : Tier}
    (hfeeder : job.rules.feeder job.tier = some feeder)
    (hcached : ∀ table ∈ job.spec.sourceTables, ∃ schema,
      job.schemas.schema? table = some schema) :
    List.Forall₂ (fun table file =>
        ∃ schema target, job.schemas.schema? table = some schema ∧
          job.spec.firstTarget? table = some target ∧
          file = (schemaFileName feeder target, schema.echo feeder))
      job.spec.echoedTables job.echoes := by
  unfold echoes Specification.echoedTables
  rw [hfeeder]
  dsimp only
  refine List.Forall₂.imp (fun table file hfile => ?_) (forall₂_filterMap fun table htable => ?_)
  · obtain ⟨schema, hschema, hfile⟩ := Option.bind_eq_some_iff.mp hfile
    obtain ⟨target, htarget, hfile⟩ := Option.bind_eq_some_iff.mp hfile
    exact ⟨schema, target, hschema, htarget, (Option.some.inj hfile).symm⟩
  · obtain ⟨schema, hschema⟩ := hcached table htable
    rw [hschema]
    cases job.spec.firstTarget? table <;> rfl

/-- What is read from the artifact of a target schema is written as the artifact was. -/
theorem TargetSchema.asSource_toJson (schema : TargetSchema) :
    schema.asSource.toJson = schema.toJson := rfl

theorem SourceSchema.echo_of_ne {feeder : Tier} (schema : SourceSchema)
    (hne : feeder ≠ .landingZone) : schema.echo feeder = schema := if_neg hne

/-- In a tier that is fed by bronze or silver there is an echo for every source table one of
whose rows names a target table.  If the artifact of the table is there as the schema of a target
table is written, then the echo has the very text of that artifact. -/
theorem echoes_are_stored_schemas {source : SchemaSource} {output : OutputSettings}
    {audit : AuditProvider} {tree : FileTree} {spec : Specification} {domain : String}
    {upper lower : Tier} {a : CompiledArtifacts}
    (hdefault : source.rules.feeder = Rules.defaultFeeder)
    (hfeeder : Rules.defaultFeeder upper = some lower)
    (hlower : lower = .bronze ∨ lower = .silver)
    (hcompile : ((source.compiler output audit tree).compile spec domain upper).answer = .ok a) :
    List.Forall₂ (fun table file =>
        (∃ target, spec.firstTarget? table = some target ∧
          file.1 = schemaFileName lower target) ∧
        ∀ schema, source.store.Holds tree domain lower table schema →
          file.2.toJson.render = schema.toJson.render ∧
          tree.read (source.store.schemaPath domain lower table) =
            .ok (.bytes file.2.toJson.render.toUTF8))
      spec.echoedTables a.sourceSchemas := by
  obtain ⟨schemas, hvalidate, hyields⟩ := compile_eq_ok.mp hcompile
  have hresolved := resolved_of_validate hvalidate
  have hfeeds : source.rules.feeder upper = some lower := by rw [hdefault, hfeeder]
  have hcached : ∀ table ∈ spec.sourceTables, ∃ schema, schemas.schema? table = some schema :=
    fun table htable => exists_schema?_of_mem hresolved htable
  have hechoes :=
    @Job.forall₂_echoes (Job.mk domain upper source.rules spec schemas) lower hfeeds hcached
  rw [hyields.sourceSchemas]
  refine List.Forall₂.imp ?_ hechoes
  rintro table file ⟨found, target, hfound, htarget, rfl⟩
  refine ⟨⟨target, htarget, rfl⟩, fun schema hholds => ?_⟩
  -- the resolver has answered with the schema that is there
  have hanswer : (source.resolver tree domain upper table).answer = .ok found :=
    (schema?_eq_some hresolved hfound).2
  rw [SchemaSource.resolver_of_holds hdefault hfeeder hlower hholds] at hanswer
  obtain rfl : schema.asSource = found := Except.ok.inj hanswer
  have hne : lower ≠ .landingZone := by
    rcases hlower with rfl | rfl <;> decide
  have hjson : (schema.asSource.echo lower).toJson = schema.toJson := by
    rw [SourceSchema.echo_of_ne _ hne, schema.asSource_toJson]
  show (schema.asSource.echo lower).toJson.render = schema.toJson.render ∧
    tree.read (source.store.schemaPath domain lower table) =
      .ok (.bytes (schema.asSource.echo lower).toJson.render.toUTF8)
  rw [hjson]
  exact ⟨rfl, hholds⟩

open BronzeThenSilver in
/-- Silver echoes the artifact of `T` as it is. -/
theorem echoes_are_stored_schemas_silver :
    silver.spec.echoedTables = ["T"] ∧
      silverArtifacts.sourceSchemas = [("bronze_schema_U.json", schema.asSource)] ∧
      schema.asSource.toJson.render = schema.toJson.render ∧
      runBronze.2.read (source.store.schemaPath "sales" .bronze "T") =
        .ok (.bytes schema.asSource.toJson.render.toUTF8) := by
  have hechoes := echoes_are_stored_schemas rfl rfl (.inl rfl) compile_silver
  have htables : silver.spec.echoedTables = ["T"] := by decide +kernel
  rw [htables] at hechoes
  cases hechoes with
  | cons hecho _ => exact ⟨htables, rfl, hecho.2 schema holds_runBronze⟩

end Medallion
