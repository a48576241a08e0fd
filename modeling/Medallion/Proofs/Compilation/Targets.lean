import Medallion.Proofs.Compilation.FileNames

/-!
# The target tables of a run

The list of target tables, the target schemas and the mapping sets of a run take their
tables from the same list of the specification, which cleanses the names of the rows a
second time.  The linkages take theirs from the rows.

* The schemas and the mapping sets have one entry for each listed table, in the order of the
  list.
* A table that a row names is listed unless it has the name of a marker of an empty number
  (`listed_iff_not_marker`).  Cleansing recognises a marker before it removes what is
  invisible, so such a name can be in a row, and a linkage then names a table that nothing
  else of the run knows (`linkage_of_unlisted_table`).
-/

namespace Medallion

/-! ## The tables of linkages -/

/-- The linkages of a job lead to the target tables of the rows that name a source table. -/
theorem Linkage.exists_targetTable_iff {job : Job} {tablePath : String}
    {linkages : List Linkage} (hlinkages : ofJob job tablePath = .ok linkages)
    {table : String} :
    (∃ l ∈ linkages, l.targetTable = table) ↔
      ∃ row ∈ job.spec.rows, row.targetTable = some table ∧ row.sourceTable.isSome = true := by
  obtain ⟨feeder, -, rfl⟩ := ofJob_eq_ok.mp hlinkages
  constructor
  · rintro ⟨l, hl, rfl⟩
    obtain ⟨⟨source, target⟩, hpair, rfl⟩ := List.mem_map.mp hl
    obtain ⟨row, hrow, hsource, htarget⟩ := mem_pairs.mp hpair
    exact ⟨row, hrow, htarget, by rw [hsource]; rfl⟩
  · rintro ⟨row, hrow, htarget, hsome⟩
    obtain ⟨source, hsource⟩ := Option.isSome_iff_exists.mp hsome
    have hpair := mem_pairs.mpr ⟨row, hrow, hsource, htarget⟩
    exact ⟨_, List.mem_map_of_mem hpair, rfl⟩

/-! ## The tables of all artifacts -/

section Runs

variable {c : Compiler} {t : Table} {domain : String} {tier : Tier} {a : CompiledArtifacts}

/-- The artifacts of a run agree on the target tables, but for tables with the name of a
marker: these have linkages only. -/
theorem listed_iff_not_marker
    (hcompile : (c.compile (.ofTable t) domain tier).answer = .ok a) :
    (∀ row ∈ (Specification.ofTable t).rows, ∀ table ∈ row.targetTable,
        (table ∈ a.targetTables.tables ↔ table ∉ Name.nullMarkers)) ∧
      a.targetTables.tables.Nodup ∧
      a.targetSchemas.map (·.tableName) = a.targetTables.tables ∧
      a.mappings.map (·.tableName) = a.targetTables.tables ∧
      (∀ l ∈ a.linkages,
        (l.targetTable ∈ a.targetTables.tables ↔ l.targetTable ∉ Name.nullMarkers)) ∧
      ∀ table ∈ a.targetTables.tables,
        (∃ row ∈ (Specification.ofTable t).rows,
          row.targetTable = some table ∧ row.sourceTable.isSome = true) →
        ∃ l ∈ a.linkages, l.targetTable = table := by
  obtain ⟨schemas, -, hyields⟩ := compile_eq_ok.mp hcompile
  have hlist : a.targetTables.tables = (Specification.ofTable t).targetTables := by
    rw [hyields.targetTables]
    rfl
  have hlinkages (table : String) :
      (∃ l ∈ a.linkages, l.targetTable = table) ↔
        ∃ row ∈ (Specification.ofTable t).rows,
          row.targetTable = some table ∧ row.sourceTable.isSome = true :=
    Linkage.exists_targetTable_iff hyields.linkages
  have hlisted {table : String}
      (hrow : ∃ row ∈ (Specification.ofTable t).rows, row.targetTable = some table) :
      table ∈ a.targetTables.tables ↔ table ∉ Name.nullMarkers := by
    rw [hlist, Specification.mem_targetTables, and_iff_right hrow]
  refine ⟨fun row hrow table htable => hlisted ⟨row, hrow, htable⟩, ?_, ?_, ?_, ?_, ?_⟩
  · rw [hlist]
    exact Specification.nodup_targetTables _
  · rw [hlist]
    exact TargetSchema.tableNames_of_ofJob hyields.targetSchemas
  · rw [hlist]
    exact MappingSet.tableNames_of_ofJob hyields.mappings
  · intro l hl
    obtain ⟨row, hrow, htarget, -⟩ := (hlinkages l.targetTable).mp ⟨l, hl, rfl⟩
    exact hlisted ⟨row, hrow, htarget⟩
  · intro table _ hrow
    exact (hlinkages table).mpr hrow

end Runs

/-! ## A run with a hidden marker -/

namespace HiddenMarker

/-- The second target table is written as a zero-width space and a marker. -/
def table : Table :=
  ⟨Header.all,
    [[.text "A", .text "id", .text "T", .text "X"],
      [.text "A", .text "id", .text "\u200BNaN", .text "Y"]]⟩

def spec : Specification := .ofTable table

def artifacts : CompiledArtifacts where
  domain := "sales"
  tier := .bronze
  targetTables := ⟨.ingest, .bronze, none, none, ["T"]⟩
  sourceSchemas := [("landing-zone_schema_T.json", ⟨"sales", "A", [], [⟨"id", "string"⟩]⟩)]
  targetSchemas := [⟨"sales", "T", [], ["IngestDate"], [⟨"X", "integer"⟩]⟩]
  linkages :=
    [⟨.landingZone, "cura", "A", .bronze, "cura", "T"⟩,
      ⟨.landingZone, "cura", "A", .bronze, "cura", "NaN"⟩]
  mappings :=
    [⟨"sales", "T", .landingZone, .bronze, [⟨"X", .integer, .direct "id" .integer⟩]⟩]

theorem compile : (TwoSources.compiler.compile spec "sales" .bronze).answer = .ok artifacts := by
  with_unfolding_all rfl

end HiddenMarker

theorem listed_iff_not_marker_hiddenMarker :
    (∀ row ∈ HiddenMarker.spec.rows, ∀ table ∈ row.targetTable,
        (table ∈ ["T"] ↔ table ∉ Name.nullMarkers)) ∧
      ["T"].Nodup ∧
      HiddenMarker.artifacts.targetSchemas.map (·.tableName) = ["T"] ∧
      HiddenMarker.artifacts.mappings.map (·.tableName) = ["T"] ∧
      (∀ l ∈ HiddenMarker.artifacts.linkages,
        (l.targetTable ∈ ["T"] ↔ l.targetTable ∉ Name.nullMarkers)) ∧
      ∀ table ∈ ["T"],
        (∃ row ∈ HiddenMarker.spec.rows,
          row.targetTable = some table ∧ row.sourceTable.isSome = true) →
        ∃ l ∈ HiddenMarker.artifacts.linkages, l.targetTable = table :=
  listed_iff_not_marker HiddenMarker.compile

/-- A row names a target table that is not listed, and a linkage leads to it. -/
theorem linkage_of_unlisted_table :
    (TwoSources.compiler.compile HiddenMarker.spec "sales" .bronze).answer =
        .ok HiddenMarker.artifacts ∧
      HiddenMarker.spec.rows.map (·.targetTable) = [some "T", some "NaN"] ∧
      HiddenMarker.artifacts.linkages.map (·.targetTable) = ["T", "NaN"] ∧
      "NaN" ∉ HiddenMarker.artifacts.targetTables.tables := by
  refine ⟨HiddenMarker.compile, ?_, rfl, by decide⟩
  with_unfolding_all rfl

end Medallion
