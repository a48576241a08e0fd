import Medallion.Proofs.Compilation.ColumnNames

/-!
# Columns that a tier adds

A table that is merged gets the merge key, in front of its columns and behind its sort columns.
Any other table gets the ingest date behind its partition columns.  The names of the rows are
cleansed before the added one is put to them, and nothing keeps a row, or the audit columns,
from having the added name as well.

* `TargetSchema.nodup_positioned_append`: a list of positioned columns with an added one has no
  name twice if and only if no row of that name has a position.
* `TargetSchema.filter_mergeKey_iff`: the merge key is the only column of its name if and only
  if no row and no audit column is called like it.
* `added_columns_unique_iff` puts the two together for the schemas of a job.
-/

namespace Medallion

namespace TargetSchema

/-! ## Positioned columns -/

section Rows

variable {cell : MappingRow → Cell} {rows : List MappingRow} {name : String}

/-- The positioned columns are the target columns of the rows that have a position. -/
theorem mem_positioned (hrows : ∀ row ∈ rows, row.IsCleansed)
    (hmarker : name ∉ Name.nullMarkers) :
    name ∈ positioned cell rows ↔
      ∃ row ∈ rows, row.targetColumn = some name ∧ (cell row).isNull = false := by
  rw [positioned, Name.mem_cleanse_map]
  · constructor
    · rintro ⟨⟨row, hrow, htarget⟩, -⟩
      rw [List.mem_mergeSort, List.mem_filter] at hrow
      exact ⟨row, hrow.1, htarget, by simpa using hrow.2⟩
    · rintro ⟨row, hrow, htarget, hposition⟩
      refine ⟨⟨row, ?_, htarget⟩, hmarker⟩
      rw [List.mem_mergeSort, List.mem_filter]
      exact ⟨hrow, by simp [hposition]⟩
  · intro row hrow
    rw [List.mem_mergeSort, List.mem_filter] at hrow
    exact (hrows row hrow.1).targetColumn

theorem nodup_positioned : (positioned cell rows).Nodup := Name.nodup_cleanse _

/-- A name that is added to the positioned columns repeats one of them if and only if a row of
that name has a position. -/
theorem nodup_positioned_append (hrows : ∀ row ∈ rows, row.IsCleansed)
    (hmarker : name ∉ Name.nullMarkers) :
    (positioned cell rows ++ [name]).Nodup ↔
      ∀ row ∈ rows, row.targetColumn = some name → (cell row).isNull = true := by
  have hnodup : (positioned cell rows ++ [name]).Nodup ↔ name ∉ positioned cell rows := by
    rw [List.nodup_append_comm, List.singleton_append, List.nodup_cons]
    exact and_iff_left nodup_positioned
  rw [hnodup, mem_positioned hrows hmarker]
  constructor
  · intro habsent row hrow htarget
    cases hposition : (cell row).isNull with
    | true => rfl
    | false => exact absurd ⟨row, hrow, htarget, hposition⟩ habsent
  · rintro hpositions ⟨row, hrow, htarget, hposition⟩
    rw [hpositions row hrow htarget] at hposition
    cases hposition

end Rows

/-! ## Columns of a name -/

theorem exists_column_iff {rules : Rules} {source : Option SourceSchema} {rows : List MappingRow}
    {columns : List Column} {name : String}
    (hcolumns : List.Forall₂ (fun row column => rowColumn rules source row = .ok column) rows
      columns) :
    (∃ column ∈ columns, column.name = name) ↔ ∃ row ∈ rows, row.targetColumn = some name := by
  constructor
  · rintro ⟨column, hmem, rfl⟩
    obtain ⟨row, hrow, hcolumn⟩ := exists_of_forall₂_right hcolumns hmem
    exact ⟨row, hrow, targetColumn_of_rowColumn hcolumn⟩
  · rintro ⟨row, hrow, htarget⟩
    obtain ⟨column, hmem, hcolumn⟩ := exists_of_forall₂_left hcolumns hrow
    rw [targetColumn_of_rowColumn hcolumn] at htarget
    exact ⟨column, hmem, Option.some.inj htarget⟩

theorem keyColumns_of_merges {tier : Tier} (hmerges : tier.merges = true) :
    keyColumns tier = [⟨mergeKey, DataType.string.name⟩] := by
  rw [keyColumns, if_pos hmerges]

/-- The merge key is the only column of its name if and only if neither a row nor an audit column
has the name. -/
theorem filter_mergeKey_iff {rules : Rules} {source : Option SourceSchema}
    {rows : List MappingRow} {columns : List Column} (auditColumns : List Column) {tier : Tier}
    (hmerges : tier.merges = true)
    (hcolumns : List.Forall₂ (fun row column => rowColumn rules source row = .ok column) rows
      columns) :
    (keyColumns tier ++ columns ++ auditColumns).filter (fun column => column.name == mergeKey) =
        [⟨mergeKey, DataType.string.name⟩] ↔
      (∀ row ∈ rows, row.targetColumn ≠ some mergeKey) ∧
        ∀ column ∈ auditColumns, column.name ≠ mergeKey := by
  have hfirst : (keyColumns tier).filter (fun column => column.name == mergeKey) =
      [⟨mergeKey, DataType.string.name⟩] := by
    rw [keyColumns_of_merges hmerges]
    rfl
  have habsent (added : List Column) :
      added.filter (fun column => column.name == mergeKey) = [] ↔
        ∀ column ∈ added, column.name ≠ mergeKey := by
    simp [List.filter_eq_nil_iff]
  have hrows : (∀ column ∈ columns, column.name ≠ mergeKey) ↔
      ∀ row ∈ rows, row.targetColumn ≠ some mergeKey := by
    have hnames : (∃ column ∈ columns, column.name = mergeKey) ↔
        ∃ row ∈ rows, row.targetColumn = some mergeKey := exists_column_iff hcolumns
    simpa using not_congr hnames
  rw [List.filter_append, List.filter_append, hfirst, List.append_assoc,
    List.append_right_eq_self, List.append_eq_nil_iff, habsent, habsent, hrows]

end TargetSchema

/-! ## Jobs -/

/-- The lists of a schema end with the name that the tier adds to them.  The merge key is the
only column of its name if and only if no row of the table and no audit column has the name, and
the sort columns, or the partition columns, have no name twice if and only if no row with the
added name has a position among them. -/
theorem added_columns_unique_iff {job : Job} {t : Table} {audit : AuditProvider}
    {schemas : List TargetSchema} {schema : TargetSchema} (hspec : job.spec = .ofTable t)
    (hschemas : TargetSchema.ofJob job audit = .ok schemas) (hschema : schema ∈ schemas) :
    ∃ auditColumns, audit job.tier = .ok auditColumns ∧
      (job.tier.merges = true →
        schema.columns.head? = some ⟨mergeKey, DataType.string.name⟩ ∧
        (schema.columns.filter (fun column => column.name == mergeKey) =
            [⟨mergeKey, DataType.string.name⟩] ↔
          (∀ row ∈ job.spec.rowsOfTarget schema.tableName, row.targetColumn ≠ some mergeKey) ∧
            ∀ column ∈ auditColumns, column.name ≠ mergeKey) ∧
        schema.sortColumns.getLast? = some mergeKey ∧
        (schema.sortColumns.Nodup ↔
          ∀ row ∈ job.spec.rowsOfTarget schema.tableName,
            row.targetColumn = some mergeKey → row.orderBy.isNull = true)) ∧
      (job.tier.merges = false →
        schema.partitionColumns.getLast? = some ingestDate ∧
        (schema.partitionColumns.Nodup ↔
          ∀ row ∈ job.spec.rowsOfTarget schema.tableName,
            row.targetColumn = some ingestDate → row.partitionBy.isNull = true)) := by
  obtain ⟨table, -, hof⟩ :=
    exists_of_forall₂_right (TargetSchema.ofJob_eq_ok.mp hschemas) hschema
  obtain ⟨source, columns, auditColumns, -, hcolumns, haudit, rfl⟩ :=
    TargetSchema.ofTable_eq_ok hof
  have hrows : ∀ row ∈ job.spec.rowsOfTarget table, row.IsCleansed :=
    fun row => Specification.isCleansed_of_mem_rowsOfTarget hspec
  refine ⟨auditColumns, haudit, fun hmerges => ?_, fun hmerges => ?_⟩
  · have hunique := TargetSchema.filter_mergeKey_iff auditColumns hmerges hcolumns
    simp only [hmerges, if_true, List.getLast?_concat]
    refine ⟨?_, hunique, trivial, TargetSchema.nodup_positioned_append hrows (by decide)⟩
    rw [TargetSchema.keyColumns_of_merges hmerges]
    rfl
  · simp only [hmerges, Bool.false_eq_true, if_false, List.getLast?_concat]
    exact ⟨trivial, TargetSchema.nodup_positioned_append hrows (by decide)⟩

/-! ## Rows with an added name -/

namespace AddedNames

/-- A target column is called `MergeKey`, as in the tier below, and sorted by; another one is
called `IngestDate` and parted by. -/
def table : Table :=
  ⟨Header.all,
    [[.text "A", .text "id", .text "T", .text "MergeKey", .bool true],
      [.text "A", .text "id", .text "T", .text "IngestDate", .empty, .bool true]]⟩

def job (tier : Tier) : Job :=
  ⟨"sales", tier, .default, .ofTable table, [("A", ⟨"sales", "A", [], [⟨"id", "int"⟩]⟩)]⟩

def audit : AuditProvider := fun _ => .ok []

def merged : TargetSchema :=
  ⟨"sales", "T", ["MergeKey", "MergeKey"], ["IngestDate"],
    [⟨"MergeKey", "string"⟩, ⟨"MergeKey", "integer"⟩, ⟨"IngestDate", "integer"⟩]⟩

def appended : TargetSchema :=
  ⟨"sales", "T", ["MergeKey"], ["IngestDate", "IngestDate"],
    [⟨"MergeKey", "integer"⟩, ⟨"IngestDate", "integer"⟩]⟩

theorem ofJob_silver : TargetSchema.ofJob (job .silver) audit = .ok [merged] := by
  with_unfolding_all rfl

theorem ofJob_bronze : TargetSchema.ofJob (job .bronze) audit = .ok [appended] := by
  with_unfolding_all rfl

end AddedNames

theorem added_columns_unique_iff_addedNames :
    (∃ auditColumns, AddedNames.audit .silver = .ok auditColumns ∧
      (Tier.silver.merges = true →
        AddedNames.merged.columns.head? = some ⟨mergeKey, DataType.string.name⟩ ∧
        (AddedNames.merged.columns.filter (fun column => column.name == mergeKey) =
            [⟨mergeKey, DataType.string.name⟩] ↔
          (∀ row ∈ (AddedNames.job .silver).spec.rowsOfTarget "T",
            row.targetColumn ≠ some mergeKey) ∧
            ∀ column ∈ auditColumns, column.name ≠ mergeKey) ∧
        AddedNames.merged.sortColumns.getLast? = some mergeKey ∧
        (AddedNames.merged.sortColumns.Nodup ↔
          ∀ row ∈ (AddedNames.job .silver).spec.rowsOfTarget "T",
            row.targetColumn = some mergeKey → row.orderBy.isNull = true))) ∧
      (Tier.bronze.merges = false →
        AddedNames.appended.partitionColumns.getLast? = some ingestDate ∧
        (AddedNames.appended.partitionColumns.Nodup ↔
          ∀ row ∈ (AddedNames.job .bronze).spec.rowsOfTarget "T",
            row.targetColumn = some ingestDate → row.partitionBy.isNull = true)) := by
  obtain ⟨auditColumns, haudit, hmerged, -⟩ :=
    added_columns_unique_iff (t := AddedNames.table) rfl AddedNames.ofJob_silver
      (List.mem_singleton_self AddedNames.merged)
  obtain ⟨-, -, -, happended⟩ :=
    added_columns_unique_iff (t := AddedNames.table) rfl AddedNames.ofJob_bronze
      (List.mem_singleton_self AddedNames.appended)
  exact ⟨⟨auditColumns, haudit, hmerged⟩, happended⟩

/-- A silver schema with the merge key twice among its columns and its sort columns, and a bronze
schema with the ingest date twice among its partition columns. -/
theorem added_columns_repeated :
    TargetSchema.ofJob (AddedNames.job .silver) AddedNames.audit = .ok [AddedNames.merged] ∧
      AddedNames.merged.columns.map (·.name) = [mergeKey, mergeKey, ingestDate] ∧
      AddedNames.merged.sortColumns = [mergeKey, mergeKey] ∧
      TargetSchema.ofJob (AddedNames.job .bronze) AddedNames.audit =
        .ok [AddedNames.appended] ∧
      AddedNames.appended.partitionColumns = [ingestDate, ingestDate] :=
  ⟨AddedNames.ofJob_silver, rfl, rfl, AddedNames.ofJob_bronze, rfl⟩

end Medallion
