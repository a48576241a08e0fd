import Medallion.Proofs.Compilation.Validated

/-!
# Target tables on their own

The schema of a target table, its mapping set and the linkages to it depend on the rows of that
table alone: on their order and on what stands in them, but neither on their numbers nor on the
rows of other tables between them.  Two specifications that have the same headers and the same
rows of a table lead to the same artifacts of that table
(`target_tables_do_not_interfere`).

There are three ways in which other rows could come in, and each has a group of lemmas:

* The numbers of the rows, which only errors use (`MappingRow.unnumbered`).
* The cache of schemas, which holds the source tables of all rows.  Two caches that have been
  filled by one resolver agree where both have a schema (`Job.Agrees`).
* The lists over all rows, the target tables and the linkages, which drop repetitions.  Dropping
  them and picking one table commute (`filter_eraseDups`).

A table whose name is a marker of an empty number is listed only if another name turns into
the marker when it is cleansed.  In specifications that are read from a table there is no such
name.
-/

namespace Medallion

/-! ## Rows without their numbers -/

/-- A row with its number left out. -/
def MappingRow.unnumbered (row : MappingRow) : MappingRow := { row with line := 0 }

section Rows

variable {job : Job} {table : String} {rows : List MappingRow} {row : MappingRow}

theorem TargetSchema.positioned_unnumbered {cell : MappingRow → Cell}
    (hcell : ∀ row, cell (MappingRow.unnumbered row) = cell row) (rows : List MappingRow) :
    positioned cell (rows.map (·.unnumbered)) = positioned cell rows := by
  have hfilter : (rows.map (·.unnumbered)).filter (fun r => !(cell r).isNull) =
      (rows.filter fun r => !(cell r).isNull).map (·.unnumbered) := by
    rw [List.filter_map]
    simp only [Function.comp_def, hcell]
  have hsort (rows : List MappingRow) :
      (rows.map (·.unnumbered)).mergeSort (fun a b => (cell a).positionLE (cell b)) =
        (rows.mergeSort fun a b => (cell a).positionLE (cell b)).map (·.unnumbered) :=
    (List.map_mergeSort fun a _ b _ => by simp only [hcell]).symm
  unfold positioned
  dsimp only
  rw [hfilter, hsort, List.map_map]
  rfl

theorem MappingSet.keyColumns_unnumbered (rows : List MappingRow) :
    keyColumns (rows.map (·.unnumbered)) = keyColumns rows := by
  unfold keyColumns
  rw [List.filter_map, List.map_map]
  rfl

theorem firstSource_unnumbered (rows : List MappingRow) :
    (rows.map (·.unnumbered)).findSome? (·.sourceTable) = rows.findSome? (·.sourceTable) := by
  rw [List.findSome?_map]
  rfl

theorem Linkage.pairs_unnumbered (rows : List MappingRow) :
    pairs (rows.map (·.unnumbered)) = pairs rows := by
  rw [pairs, List.filterMap_map]
  rfl

theorem TargetSchema.rowColumn_unnumbered {rules : Rules} {source : Option SourceSchema}
    {column : Column} :
    rowColumn rules source row.unnumbered = .ok column ↔
      rowColumn rules source row = .ok column := by
  unfold rowColumn MappingRow.unnumbered
  cases row.targetColumn with
  | none => simp
  | some name => rfl

theorem MappingSet.mapsTo_unnumbered {mapping : Option ColumnMapping} :
    MapsTo job table row.unnumbered mapping ↔ MapsTo job table row mapping := by
  unfold MapsTo rowMapping MappingRow.unnumbered
  cases row.targetColumn with
  | none => cases mapping <;> simp [MapError.isRecoverable]
  | some name => rfl

end Rows

/-! ## Two jobs -/

/-- Whether two jobs differ in nothing but their specifications and the schemas that only one of
them has. -/
structure Job.Agrees (job job' : Job) : Prop where
  domain : job'.domain = job.domain
  tier : job'.tier = job.tier
  rules : job'.rules = job.rules
  schemas : ∀ table schema schema', job.schemas.schema? table = some schema →
    job'.schemas.schema? table = some schema' → schema' = schema

section Jobs

variable {job job' : Job} {table : String} {rows rows' : List MappingRow}

theorem TargetSchema.sourceSchema_agrees (hjobs : job.Agrees job')
    (hfirst : rows'.findSome? (·.sourceTable) = rows.findSome? (·.sourceTable))
    {source source' : Option SourceSchema} (hsource : sourceSchema job rows = .ok source)
    (hsource' : sourceSchema job' rows' = .ok source') : source' = source := by
  unfold sourceSchema at hsource hsource'
  rw [hfirst] at hsource'
  cases htable : rows.findSome? (·.sourceTable) with
  | none =>
    rw [htable] at hsource hsource'
    rw [← Except.ok.inj hsource, ← Except.ok.inj hsource']
  | some table =>
    rw [htable] at hsource hsource'
    dsimp only at hsource hsource'
    cases hschema : job.schemas.schema? table with
    | none => simp [hschema] at hsource
    | some schema =>
      cases hschema' : job'.schemas.schema? table with
      | none => simp [hschema'] at hsource'
      | some schema' =>
        rw [hschema] at hsource
        rw [hschema'] at hsource'
        rw [← Except.ok.inj hsource, ← Except.ok.inj hsource',
          hjobs.schemas table schema schema' hschema hschema']

theorem TargetSchema.ofTable_agrees {audit : AuditProvider} (hjobs : job.Agrees job')
    (hrows : (job'.spec.rowsOfTarget table).map (·.unnumbered) =
      (job.spec.rowsOfTarget table).map (·.unnumbered))
    {schema schema' : TargetSchema} (hschema : ofTable job audit table = .ok schema)
    (hschema' : ofTable job' audit table = .ok schema') : schema' = schema := by
  obtain ⟨source, columns, auditColumns, hsource, hcolumns, haudit, rfl⟩ := ofTable_eq_ok hschema
  obtain ⟨source', columns', auditColumns', hsource', hcolumns', haudit', rfl⟩ :=
    ofTable_eq_ok hschema'
  have hfirst : (job'.spec.rowsOfTarget table).findSome? (·.sourceTable) =
      (job.spec.rowsOfTarget table).findSome? (·.sourceTable) := by
    rw [← firstSource_unnumbered, hrows, firstSource_unnumbered]
  obtain rfl : source' = source := sourceSchema_agrees hjobs hfirst hsource hsource'
  have hsorted : ∀ cell : MappingRow → Cell, (∀ row, cell (MappingRow.unnumbered row) = cell row) →
      positioned cell (job'.spec.rowsOfTarget table) =
        positioned cell (job.spec.rowsOfTarget table) := by
    intro cell hcell
    rw [← positioned_unnumbered hcell, hrows, positioned_unnumbered hcell]
  have hsame : columns' = columns := by
    refine eq_of_forall₂ (fun row row' column column' hrow h h' => ?_) hrows hcolumns hcolumns'
    rw [← rowColumn_unnumbered] at h h'
    rw [hrow, hjobs.rules, h] at h'
    exact (Except.ok.inj h').symm
  rw [hjobs.tier, haudit] at haudit'
  cases haudit'
  rw [hsame, hjobs.domain, hjobs.tier, hsorted (·.orderBy) fun _ => rfl,
    hsorted (·.partitionBy) fun _ => rfl]

/-- A row that has a mapping, or is left out, has a target column, and the source column that
it reads from a table is found. -/
theorem MappingSet.ne_error_of_mapsTo {row : MappingRow} {mapping : Option ColumnMapping}
    (hmaps : MapsTo job table row mapping) (problem : MappingProblem) :
    rowMapping job table row ≠ .error (.mappingGeneration table problem) := by
  intro herror
  cases mapping with
  | none =>
    obtain ⟨e, he, hrecoverable⟩ := hmaps
    rw [herror] at he
    cases he
    cases hrecoverable
  | some mapping =>
    unfold MapsTo at hmaps
    rw [herror] at hmaps
    cases hmaps

theorem MappingSet.rowMapping_agrees {row : MappingRow} {mapping mapping' : Option ColumnMapping}
    (hjobs : job.Agrees job') (hmaps : MapsTo job table row mapping)
    (hmaps' : MapsTo job' table row mapping') :
    rowMapping job' table row = rowMapping job table row := by
  have hfound := ne_error_of_mapsTo hmaps
  have hfound' := ne_error_of_mapsTo hmaps'
  unfold rowMapping at hfound hfound' ⊢
  cases htarget : row.targetColumn with
  | none => simp [htarget] at hfound
  | some name =>
    cases hsource : row.sourceTable with
    | none => simp only [hjobs.rules]
    | some source =>
      cases hcolumn : row.sourceColumn with
      | none => simp only [hjobs.rules]
      | some column =>
        simp only [htarget, hsource, hcolumn] at hfound hfound' ⊢
        cases hschema : job.schemas.schema? source with
        | none => simp [hschema] at hfound
        | some schema =>
          cases hschema' : job'.schemas.schema? source with
          | none => simp [hschema'] at hfound'
          | some schema' =>
            rw [hjobs.schemas source schema schema' hschema hschema', hjobs.rules]

theorem MappingSet.mapsTo_agrees {row : MappingRow} {mapping mapping' : Option ColumnMapping}
    (hjobs : job.Agrees job') (hmaps : MapsTo job table row mapping)
    (hmaps' : MapsTo job' table row mapping') : mapping' = mapping := by
  have hsame := rowMapping_agrees hjobs hmaps hmaps'
  unfold MapsTo at hmaps hmaps'
  rw [hsame] at hmaps'
  cases mapping with
  | some column =>
    dsimp only at hmaps
    rw [hmaps] at hmaps'
    cases mapping' with
    | some column' => rw [Except.ok.inj hmaps']
    | none =>
      obtain ⟨e, he, -⟩ := hmaps'
      cases he
  | none =>
    obtain ⟨e, he, -⟩ := hmaps
    rw [he] at hmaps'
    cases mapping' with
    | some column' => cases hmaps'
    | none => rfl

theorem MappingSet.ofTable_agrees {feeder : Tier} (hjobs : job.Agrees job')
    (hheaders : job'.spec.headers = job.spec.headers)
    (hrows : (job'.spec.rowsOfTarget table).map (·.unnumbered) =
      (job.spec.rowsOfTarget table).map (·.unnumbered))
    {set set' : MappingSet} (hset : ofTable job feeder table = .ok set)
    (hset' : ofTable job' feeder table = .ok set') : set' = set := by
  obtain ⟨found, hfound, rfl⟩ := ofTable_eq_ok hset
  obtain ⟨found', hfound', rfl⟩ := ofTable_eq_ok hset'
  have hkeys : keyColumns (job'.spec.rowsOfTarget table) =
      keyColumns (job.spec.rowsOfTarget table) := by
    rw [← keyColumns_unnumbered, hrows, keyColumns_unnumbered]
  have hkey : keyMapping? job'.spec (job'.spec.rowsOfTarget table) =
      keyMapping? job.spec (job.spec.rowsOfTarget table) := by
    unfold keyMapping? Specification.hasHeader
    rw [hheaders, hkeys]
  have hsame : found' = found := by
    refine eq_of_forall₂ (fun row row' mapping mapping' hrow h h' => ?_) hrows hfound hfound'
    rw [← mapsTo_unnumbered] at h h'
    rw [hrow] at h'
    exact mapsTo_agrees hjobs h h'
  rw [hsame, hkey, hjobs.domain, hjobs.tier]

end Jobs

/-! ## Linkages of one table -/

theorem Linkage.filter_pairs (spec : Specification) (table : String) :
    (pairs spec.rows).filter (fun pair => pair.2 == table) = pairs (spec.rowsOfTarget table) := by
  rw [pairs, pairs, filter_eraseDups, Specification.rowsOfTarget, List.filter_filterMap,
    List.filterMap_filter]
  congr 2
  funext row
  unfold pair?
  cases row.sourceTable <;> cases row.targetTable <;> simp [Option.filter]

/-- The linkages of a job to a table are those of the rows of that table. -/
theorem Linkage.filter_of_ofJob {job : Job} {tablePath : String} {linkages : List Linkage}
    (hlinkages : ofJob job tablePath = .ok linkages) (table : String) :
    ∃ feeder, job.rules.feeder job.tier = some feeder ∧
      linkages.filter (fun l => l.targetTable == table) =
        (pairs (job.spec.rowsOfTarget table)).map fun pair =>
          ⟨feeder, tablePath, pair.1, job.tier, tablePath, pair.2⟩ := by
  obtain ⟨feeder, hfeeder, rfl⟩ := ofJob_eq_ok.mp hlinkages
  refine ⟨feeder, hfeeder, ?_⟩
  rw [List.filter_map, ← filter_pairs]
  rfl

/-! ## The artifacts of one table -/

namespace CompiledArtifacts

/-- The schema of a target table. -/
def schemaOf? (a : CompiledArtifacts) (table : String) : Option TargetSchema :=
  a.targetSchemas.find? fun schema => schema.tableName == table

/-- The mapping set of a target table. -/
def mappingOf? (a : CompiledArtifacts) (table : String) : Option MappingSet :=
  a.mappings.find? fun set => set.tableName == table

/-- The linkages to a target table. -/
def linkagesTo (a : CompiledArtifacts) (table : String) : List Linkage :=
  a.linkages.filter fun l => l.targetTable == table

end CompiledArtifacts

section Yields

variable {job : Job} {output : OutputSettings} {audit : AuditProvider} {a : CompiledArtifacts}
  {table : String}

theorem Job.Yields.schemaOf?_eq_some_iff (hyields : job.Yields output audit a)
    {schema : TargetSchema} :
    a.schemaOf? table = some schema ↔
      table ∈ job.spec.targetTables ∧ TargetSchema.ofTable job audit table = .ok schema :=
  find?_eq_some_iff_of_forall₂ (fun _ _ => TargetSchema.tableName_of_ofTable)
    (TargetSchema.ofJob_eq_ok.mp hyields.targetSchemas)

/-- Every listed table has a schema, and no other table has one. -/
theorem Job.Yields.isSome_schemaOf?_iff (hyields : job.Yields output audit a) :
    (a.schemaOf? table).isSome = true ↔ table ∈ job.spec.targetTables :=
  isSome_find?_iff_of_forall₂ (fun _ _ => TargetSchema.tableName_of_ofTable)
    (TargetSchema.ofJob_eq_ok.mp hyields.targetSchemas)

theorem Job.Yields.mappingOf?_eq_some_iff (hyields : job.Yields output audit a) {feeder : Tier}
    (hfeeder : job.rules.feeder job.tier = some feeder) {set : MappingSet} :
    a.mappingOf? table = some set ↔
      table ∈ job.spec.targetTables ∧ MappingSet.ofTable job feeder table = .ok set := by
  obtain ⟨feeder', hfeeder', hsets⟩ := MappingSet.ofJob_eq_ok.mp hyields.mappings
  rw [hfeeder] at hfeeder'
  cases hfeeder'
  exact find?_eq_some_iff_of_forall₂ (fun _ _ => MappingSet.tableName_of_ofTable) hsets

theorem Job.Yields.isSome_mappingOf?_iff (hyields : job.Yields output audit a) :
    (a.mappingOf? table).isSome = true ↔ table ∈ job.spec.targetTables := by
  obtain ⟨feeder, -, hsets⟩ := MappingSet.ofJob_eq_ok.mp hyields.mappings
  exact isSome_find?_iff_of_forall₂ (fun _ _ => MappingSet.tableName_of_ofTable) hsets

theorem Job.Yields.rowsOfTarget_ne_nil (hyields : job.Yields output audit a)
    (htable : table ∈ job.spec.targetTables) : job.spec.rowsOfTarget table ≠ [] := by
  obtain ⟨schema, -, hschema⟩ :=
    exists_of_forall₂_left (TargetSchema.ofJob_eq_ok.mp hyields.targetSchemas) htable
  rw [TargetSchema.ofTable, mapError_eq_ok] at hschema
  intro hnil
  rw [hnil] at hschema
  cases hschema

end Yields

/-! ## Two specifications -/

section Runs

variable {c : Compiler} {left right : Specification} {domain : String} {tier : Tier}
  {a b : CompiledArtifacts} {table : String}

/-- Jobs whose schemas one resolver has answered agree. -/
theorem agrees_of_resolved {schemas schemas' : SchemaCache} {tables tables' : List String}
    (hresolved : (resolveAll c.resolver domain tier tables).answer = .ok schemas)
    (hresolved' : (resolveAll c.resolver domain tier tables').answer = .ok schemas') :
    (Job.mk domain tier c.rules left schemas).Agrees
      (Job.mk domain tier c.rules right schemas') where
  domain := rfl
  tier := rfl
  rules := rfl
  schemas table schema schema' hschema hschema' := by
    have hanswer := (schema?_eq_some hresolved hschema).2
    rw [(schema?_eq_some hresolved' hschema').2] at hanswer
    exact Except.ok.inj hanswer

/-- A table that one specification lists is listed in the other one if it has a row there. -/
theorem mem_targetTables_of_row (hlisted : table ∈ left.targetTables)
    (hmarker : table ∉ Name.nullMarkers) (hrows : right.rowsOfTarget table ≠ []) :
    table ∈ right.targetTables := by
  obtain ⟨row, hrow⟩ := List.exists_mem_of_ne_nil _ hrows
  obtain ⟨hrow, htarget⟩ := Specification.mem_rowsOfTarget.mp hrow
  refine Name.mem_cleanse_of_isCleansed (Name.isCleansed_of_mem_cleanse hlisted) ?_ hmarker
  rw [← htarget]
  exact List.mem_map_of_mem hrow

theorem listed_of_sameRows {job : Job} {output : OutputSettings} {audit : AuditProvider}
    (hyields : job.Yields output audit a)
    (hrows : (right.rowsOfTarget table).map (·.unnumbered) =
      (job.spec.rowsOfTarget table).map (·.unnumbered))
    (hmarker : table ∉ Name.nullMarkers) (hlisted : table ∈ job.spec.targetTables) :
    table ∈ right.targetTables := by
  refine mem_targetTables_of_row hlisted hmarker fun hnil => ?_
  rw [hnil, List.map_nil, eq_comm, List.map_eq_nil_iff] at hrows
  exact hyields.rowsOfTarget_ne_nil hlisted hrows

/-- Specifications with the same rows of a table both list it or both do not, unless its name is
a marker and one of them is not read from a table. -/
theorem listed_iff_of_sameRows {job job' : Job} {output : OutputSettings} {audit : AuditProvider}
    (hyields : job.Yields output audit a) (hyields' : job'.Yields output audit b)
    (hrows : (job'.spec.rowsOfTarget table).map (·.unnumbered) =
      (job.spec.rowsOfTarget table).map (·.unnumbered))
    (hcase : table ∉ Name.nullMarkers ∨
      ∃ t t', job.spec = .ofTable t ∧ job'.spec = .ofTable t') :
    table ∈ job'.spec.targetTables ↔ table ∈ job.spec.targetTables := by
  by_cases hmarker : table ∈ Name.nullMarkers
  · obtain ⟨t, t', hspec, hspec'⟩ := hcase.resolve_left (not_not_intro hmarker)
    rw [hspec, hspec', Specification.mem_targetTables, Specification.mem_targetTables]
    simp [hmarker]
  · exact ⟨listed_of_sameRows hyields' hrows.symm hmarker,
      listed_of_sameRows hyields hrows hmarker⟩

/-- Two specifications with the same headers and, but for their numbers, the same rows of a
table lead to the same linkages to the table, to the same schema and to the same mapping set of
it.  Both of them list the table or neither does, unless its name is a marker and one of them
is not read from a table. -/
theorem target_tables_do_not_interfere (hheaders : right.headers = left.headers)
    (hleft : (c.compile left domain tier).answer = .ok a)
    (hright : (c.compile right domain tier).answer = .ok b)
    (hrows : (right.rowsOfTarget table).map (·.unnumbered) =
      (left.rowsOfTarget table).map (·.unnumbered)) :
    b.linkagesTo table = a.linkagesTo table ∧
      (∀ schema schema', a.schemaOf? table = some schema → b.schemaOf? table = some schema' →
        schema' = schema) ∧
      (∀ set set', a.mappingOf? table = some set → b.mappingOf? table = some set' →
        set' = set) ∧
      (table ∉ Name.nullMarkers ∨ (∃ t t', left = .ofTable t ∧ right = .ofTable t') →
        b.schemaOf? table = a.schemaOf? table ∧ b.mappingOf? table = a.mappingOf? table) := by
  obtain ⟨schemas, hvalid, hyields⟩ := compile_eq_ok.mp hleft
  obtain ⟨schemas', hvalid', hyields'⟩ := compile_eq_ok.mp hright
  have hjobs : (Job.mk domain tier c.rules left schemas).Agrees
      (Job.mk domain tier c.rules right schemas') :=
    agrees_of_resolved (resolved_of_validate hvalid) (resolved_of_validate hvalid')
  obtain ⟨feeder, hfeeder, hlinkages⟩ := Linkage.filter_of_ofJob hyields.linkages table
  obtain ⟨feeder', hfeeder', hlinkages'⟩ := Linkage.filter_of_ofJob hyields'.linkages table
  obtain rfl : feeder = feeder' := Option.some.inj (hfeeder.symm.trans hfeeder')
  have hschemas (schema schema' : TargetSchema) (hschema : a.schemaOf? table = some schema)
      (hschema' : b.schemaOf? table = some schema') : schema' = schema :=
    TargetSchema.ofTable_agrees hjobs hrows (hyields.schemaOf?_eq_some_iff.mp hschema).2
      (hyields'.schemaOf?_eq_some_iff.mp hschema').2
  have hsets (set set' : MappingSet) (hset : a.mappingOf? table = some set)
      (hset' : b.mappingOf? table = some set') : set' = set :=
    MappingSet.ofTable_agrees hjobs hheaders hrows
      ((hyields.mappingOf?_eq_some_iff hfeeder).mp hset).2
      ((hyields'.mappingOf?_eq_some_iff hfeeder').mp hset').2
  refine ⟨?_, hschemas, hsets, fun hcase => ?_⟩
  · rw [CompiledArtifacts.linkagesTo, CompiledArtifacts.linkagesTo, hlinkages, hlinkages',
      ← Linkage.pairs_unnumbered, hrows, Linkage.pairs_unnumbered]
  · have hlisted := listed_iff_of_sameRows hyields hyields' hrows hcase
    constructor
    · refine eq_of_isSome_iff ?_ hschemas
      rw [hyields.isSome_schemaOf?_iff, hyields'.isSome_schemaOf?_iff, hlisted]
    · refine eq_of_isSome_iff ?_ hsets
      rw [hyields.isSome_mappingOf?_iff, hyields'.isSome_mappingOf?_iff, hlisted]

end Runs

/-! ## The rows of a table among others -/

namespace Interleaved

/-- The rows of `T` are those of `TwoSources.spec`, among rows of `U`. -/
def spec : Specification :=
  .ofTable ⟨Header.all,
    [[.text "B", .text "id", .text "U", .text "V"],
      [.text "A", .text "id", .text "T", .text "X"],
      [.text "C", .text "id", .text "U", .text "W"],
      [.text "B", .text "id", .text "T", .text "Y"]]⟩

def artifacts : CompiledArtifacts where
  domain := "sales"
  tier := .bronze
  targetTables := ⟨.ingest, .bronze, none, none, ["U", "T"]⟩
  sourceSchemas :=
    [("landing-zone_schema_U.json", ⟨"sales", "B", [], [⟨"id", "string"⟩]⟩),
      ("landing-zone_schema_T.json", ⟨"sales", "A", [], [⟨"id", "string"⟩]⟩),
      ("landing-zone_schema_U.json", ⟨"sales", "C", [], [⟨"id", "string"⟩]⟩)]
  targetSchemas :=
    [⟨"sales", "U", [], ["IngestDate"], [⟨"V", "long"⟩, ⟨"W", "long"⟩]⟩, TwoSources.schema]
  linkages :=
    [⟨.landingZone, "cura", "B", .bronze, "cura", "U"⟩,
      ⟨.landingZone, "cura", "A", .bronze, "cura", "T"⟩,
      ⟨.landingZone, "cura", "C", .bronze, "cura", "U"⟩,
      ⟨.landingZone, "cura", "B", .bronze, "cura", "T"⟩]
  mappings :=
    [⟨"sales", "U", .landingZone, .bronze,
        [⟨"V", .long, .direct "id" .long⟩, ⟨"W", .long, .direct "id" .long⟩]⟩,
      TwoSources.mappings]

theorem compile : (TwoSources.compiler.compile spec "sales" .bronze).answer = .ok artifacts := by
  with_unfolding_all rfl

end Interleaved

theorem target_tables_do_not_interfere_interleaved :
    Interleaved.artifacts.linkagesTo "T" = TwoSources.artifacts.linkagesTo "T" ∧
      Interleaved.artifacts.schemaOf? "T" = TwoSources.artifacts.schemaOf? "T" ∧
      Interleaved.artifacts.mappingOf? "T" = TwoSources.artifacts.mappingOf? "T" := by
  have hheaders : Interleaved.spec.headers = TwoSources.spec.headers := rfl
  have hrows : (Interleaved.spec.rowsOfTarget "T").map (·.unnumbered) =
      (TwoSources.spec.rowsOfTarget "T").map (·.unnumbered) := by
    decide +kernel
  obtain ⟨hlinkages, -, -, hboth⟩ :=
    target_tables_do_not_interfere hheaders TwoSources.compile Interleaved.compile hrows
  exact ⟨hlinkages, hboth (.inl (by decide))⟩

end Medallion
