import Medallion.Proofs.Compilation.FileNames
import Medallion.Proofs.Compilation.Validated

/-!
# Names of columns

The artifacts of a target table name columns of the table in three lists: the sort columns and
the partition columns of its schema, and the columns that its merge key hashes.  All three are
lists of target columns of some rows of the table, cleansed once more, and the schema has a
column for every row of the table.  So every name in them is the name of a column of the schema
(`used_columns_exist`); of the names that a tier adds, the merge key is a column as well, and
the ingest date is not.

A row can have `MergeKey` for its target column.  Its mapping is a column like any other, behind
the merge key if there is one, and nothing is said about a function in it.

The specification has to be read from a table.  Then the target columns of its rows are
cleansed, and cleansing them again drops names and changes none (`exists_row_of_mem_cleanse`).
-/

namespace Medallion

/-- Whether a schema has a column with a name. -/
def TargetSchema.HasColumn (schema : TargetSchema) (name : String) : Prop :=
  ∃ column ∈ schema.columns, column.name = name

/-! ## Lists of target columns -/

section Rows

variable {rows chosen : List MappingRow} {name : String}

/-- The names in a cleansed list of target columns are target columns. -/
theorem exists_row_of_mem_cleanse (hrows : ∀ row ∈ rows, row.IsCleansed)
    (hchosen : ∀ row ∈ chosen, row ∈ rows)
    (hname : name ∈ Name.cleanse (chosen.map (·.targetColumn))) :
    ∃ row ∈ rows, row.targetColumn = some name := by
  have hcleansed : ∀ row ∈ chosen, ∀ column ∈ row.targetColumn, Name.IsCleansed column :=
    fun row hrow => (hrows row (hchosen row hrow)).targetColumn
  obtain ⟨⟨row, hrow, htarget⟩, -⟩ := (Name.mem_cleanse_map hcleansed).mp hname
  exact ⟨row, hchosen row hrow, htarget⟩

theorem TargetSchema.exists_row_of_positioned {cell : MappingRow → Cell}
    (hrows : ∀ row ∈ rows, row.IsCleansed) (hname : name ∈ positioned cell rows) :
    ∃ row ∈ rows, row.targetColumn = some name := by
  refine exists_row_of_mem_cleanse hrows (fun row hrow => ?_) hname
  rw [List.mem_mergeSort] at hrow
  exact (List.mem_filter.mp hrow).1

theorem MappingSet.exists_row_of_keyColumns (hrows : ∀ row ∈ rows, row.IsCleansed)
    (hname : name ∈ keyColumns rows) : ∃ row ∈ rows, row.targetColumn = some name :=
  exists_row_of_mem_cleanse hrows (fun _ hrow => (List.mem_filter.mp hrow).1) hname

end Rows

/-! ## Schemas -/

namespace TargetSchema

theorem targetColumn_of_rowColumn {rules : Rules} {source : Option SourceSchema}
    {row : MappingRow} {column : Column} (hcolumn : rowColumn rules source row = .ok column) :
    row.targetColumn = some column.name := by
  unfold rowColumn at hcolumn
  cases htarget : row.targetColumn with
  | none => simp [htarget] at hcolumn
  | some name =>
    rw [htarget] at hcolumn
    obtain ⟨type, -, rfl⟩ := map_eq_ok.mp hcolumn
    rfl

variable {job : Job} {audit : AuditProvider} {table name : String} {schema : TargetSchema}

/-- A schema has a column for every row of its table. -/
theorem hasColumn_of_row (hschema : ofTable job audit table = .ok schema)
    (hrow : ∃ row ∈ job.spec.rowsOfTarget table, row.targetColumn = some name) :
    schema.HasColumn name := by
  obtain ⟨row, hrow, htarget⟩ := hrow
  obtain ⟨source, columns, auditColumns, -, hcolumns, -, rfl⟩ := ofTable_eq_ok hschema
  obtain ⟨column, hmem, hcolumn⟩ := exists_of_forall₂_left hcolumns hrow
  refine ⟨column, List.mem_append_left _ (List.mem_append_right _ hmem), ?_⟩
  rw [targetColumn_of_rowColumn hcolumn] at htarget
  exact Option.some.inj htarget

/-- A table that is merged has the merge key for a column. -/
theorem hasColumn_mergeKey (hschema : ofTable job audit table = .ok schema)
    (hmerges : job.tier.merges = true) : schema.HasColumn mergeKey := by
  obtain ⟨source, columns, auditColumns, -, -, -, rfl⟩ := ofTable_eq_ok hschema
  have hkey : keyColumns job.tier = [⟨mergeKey, DataType.string.name⟩] := by
    rw [keyColumns, hmerges, if_pos rfl]
  refine ⟨⟨mergeKey, DataType.string.name⟩, ?_, rfl⟩
  rw [hkey]
  exact List.mem_cons_self

theorem hasColumn_of_sortColumns (hschema : ofTable job audit table = .ok schema)
    (hrows : ∀ row ∈ job.spec.rowsOfTarget table, row.IsCleansed)
    (hname : name ∈ schema.sortColumns) : schema.HasColumn name := by
  obtain ⟨source, columns, auditColumns, -, -, -, hfields⟩ := ofTable_eq_ok hschema
  have hsort : schema.sortColumns = positioned (·.orderBy) (job.spec.rowsOfTarget table) ++
      if job.tier.merges then [mergeKey] else [] :=
    congrArg TargetSchema.sortColumns hfields
  rw [hsort, List.mem_append] at hname
  rcases hname with hrow | hkey
  · exact hasColumn_of_row hschema (exists_row_of_positioned hrows hrow)
  · split at hkey
    · rename_i hmerges
      rw [List.mem_singleton.mp hkey]
      exact hasColumn_mergeKey hschema hmerges
    · cases hkey

/-- Only the ingest date can be a partition column and no column. -/
theorem hasColumn_of_partitionColumns (hschema : ofTable job audit table = .ok schema)
    (hrows : ∀ row ∈ job.spec.rowsOfTarget table, row.IsCleansed) :
    ∃ front,
      schema.partitionColumns = front ++ (if job.tier.merges then [] else [ingestDate]) ∧
        ∀ name ∈ front, schema.HasColumn name := by
  obtain ⟨source, columns, auditColumns, -, -, -, hfields⟩ := ofTable_eq_ok hschema
  refine ⟨positioned (·.partitionBy) (job.spec.rowsOfTarget table),
    congrArg TargetSchema.partitionColumns hfields, fun name hname => ?_⟩
  exact hasColumn_of_row hschema (exists_row_of_positioned hrows hname)

end TargetSchema

/-! ## Merge keys -/

/-- The columns that a function hashes: its parameter for names of columns. -/
def ColumnSource.hashedColumns? : ColumnSource → Option (List String)
  | .function members =>
    match Json.member? "params" members with
    | some (.object params) =>
      match Json.member? "column_names" params with
      | some (.array names) => names.mapM (·.text?)
      | _ => none
    | _ => none
  | .direct _ _ | .empty => none

theorem ColumnSource.hashedColumns?_keyHash (columns : List String) :
    (keyHash columns).hashedColumns? = some columns := by
  have hnames : (columns.map Json.text).mapM (·.text?) = some columns := by
    induction columns with
    | nil => rfl
    | cons column columns ih =>
      rw [List.map_cons, List.mapM_cons, ih]
      rfl
  exact hnames

namespace MappingSet

variable {job : Job} {table : String}

/-- The merge key of some rows hashes the columns that are marked as business keys. -/
theorem keyMapping?_eq_some {spec : Specification} {rows : List MappingRow} {key : ColumnMapping}
    (hkey : keyMapping? spec rows = some key) :
    key = ⟨mergeKey, .string, .keyHash (keyColumns rows)⟩ := by
  unfold keyMapping? at hkey
  split at hkey
  · cases hcolumns : keyColumns rows with
    | nil => simp [hcolumns] at hkey
    | cons column more =>
      rw [hcolumns] at hkey
      exact (Option.some.inj hkey).symm
  · cases hkey

theorem head?_columns {feeder : Tier} {set : MappingSet} {key : ColumnMapping}
    (hset : ofTable job feeder table = .ok set)
    (hkey : keyMapping? job.spec (job.spec.rowsOfTarget table) = some key) :
    set.columns.head? = some key := by
  obtain ⟨found, -, rfl⟩ := ofTable_eq_ok hset
  rw [hkey]
  rfl

/-- The columns that a merge key hashes are columns of the schema of its table. -/
theorem hasColumn_of_keyMapping {audit : AuditProvider} {schema : TargetSchema}
    {key : ColumnMapping} (hschema : TargetSchema.ofTable job audit table = .ok schema)
    (hrows : ∀ row ∈ job.spec.rowsOfTarget table, row.IsCleansed)
    (hkey : keyMapping? job.spec (job.spec.rowsOfTarget table) = some key) :
    key.name = mergeKey ∧ ∃ names, key.source.hashedColumns? = some names ∧
      ∀ name ∈ names, schema.HasColumn name := by
  rw [keyMapping?_eq_some hkey]
  refine ⟨rfl, _, ColumnSource.hashedColumns?_keyHash _, fun name hname => ?_⟩
  exact TargetSchema.hasColumn_of_row hschema (exists_row_of_keyColumns hrows hname)

end MappingSet

/-! ## Runs -/

section Runs

variable {c : Compiler} {t : Table} {domain : String} {tier : Tier} {a : CompiledArtifacts}
  {schema : TargetSchema}

/-- The sort columns of a target table, its partition columns without the ingest date, and the
columns that its merge key hashes are columns of its schema.  The merge key is the first column
of its mapping set. -/
theorem used_columns_exist (hcompile : (c.compile (.ofTable t) domain tier).answer = .ok a)
    (hschema : schema ∈ a.targetSchemas) :
    (∀ name ∈ schema.sortColumns, schema.HasColumn name) ∧
      (∃ front, schema.partitionColumns = front ++ (if tier.merges then [] else [ingestDate]) ∧
        ∀ name ∈ front, schema.HasColumn name) ∧
      ∀ set ∈ a.mappings, set.tableName = schema.tableName → ∀ key,
        MappingSet.keyMapping? (.ofTable t)
            ((Specification.ofTable t).rowsOfTarget schema.tableName) = some key →
          set.columns.head? = some key ∧ key.name = mergeKey ∧
            ∃ names, key.source.hashedColumns? = some names ∧
              ∀ name ∈ names, schema.HasColumn name := by
  obtain ⟨schemas, -, hyields⟩ := compile_eq_ok.mp hcompile
  have hof := (hyields.ofTable_of_mem hschema).1
  have hrows : ∀ row ∈ (Specification.ofTable t).rowsOfTarget schema.tableName,
      row.IsCleansed := by
    intro row hrow
    exact Specification.isCleansed_of_mem (Specification.mem_rowsOfTarget.mp hrow).1
  refine ⟨fun name => TargetSchema.hasColumn_of_sortColumns hof hrows,
    TargetSchema.hasColumn_of_partitionColumns hof hrows, ?_⟩
  intro set hset htable key hkey
  obtain ⟨feeder, -, hsets⟩ := MappingSet.ofJob_eq_ok.mp hyields.mappings
  obtain ⟨table, -, hset⟩ := exists_of_forall₂_right hsets hset
  obtain rfl : table = schema.tableName :=
    (MappingSet.tableName_of_ofTable hset).symm.trans htable
  exact ⟨MappingSet.head?_columns hset hkey,
    MappingSet.hasColumn_of_keyMapping hof hrows hkey⟩

end Runs

/-! ## A table with a merge key -/

namespace KeyedTable

/-- One column is a sort column, the other one a partition column, and both are business
keys. -/
def table : Table :=
  ⟨Header.all,
    [[.text "A", .text "id", .text "T", .text "X", .bool true, .empty, .text "y"],
      [.text "A", .text "id", .text "T", .text "Y", .empty, .bool true, .text "y"]]⟩

def schema : TargetSchema :=
  ⟨"sales", "T", ["X", "MergeKey"], ["Y"],
    [⟨"MergeKey", "string"⟩, ⟨"X", "integer"⟩, ⟨"Y", "integer"⟩]⟩

def key : ColumnMapping := ⟨"MergeKey", .string, .keyHash ["X", "Y"]⟩

def mappings : MappingSet :=
  ⟨"sales", "T", .bronze, .silver,
    [key, ⟨"X", .integer, .direct "id" .integer⟩, ⟨"Y", .integer, .direct "id" .integer⟩]⟩

def artifacts : CompiledArtifacts where
  domain := "sales"
  tier := .silver
  targetTables := ⟨.merge, .silver, none, none, ["T"]⟩
  sourceSchemas := [("bronze_schema_T.json", ⟨"sales", "A", [], [⟨"id", "int"⟩]⟩)]
  targetSchemas := [schema]
  linkages := [⟨.bronze, "cura", "A", .silver, "cura", "T"⟩]
  mappings := [mappings]

theorem compile :
    (TwoSources.compiler.compile (.ofTable table) "sales" .silver).answer = .ok artifacts := by
  with_unfolding_all rfl

end KeyedTable

theorem used_columns_exist_keyedTable :
    (∀ name ∈ ["X", "MergeKey"], KeyedTable.schema.HasColumn name) ∧
      (∃ front, ["Y"] = front ++ (if Tier.silver.merges then [] else [ingestDate]) ∧
        ∀ name ∈ front, KeyedTable.schema.HasColumn name) ∧
      KeyedTable.mappings.columns.head? = some KeyedTable.key ∧
      ∃ names, KeyedTable.key.source.hashedColumns? = some names ∧
        ∀ name ∈ names, KeyedTable.schema.HasColumn name := by
  obtain ⟨hsort, hpartition, hkeys⟩ :=
    used_columns_exist KeyedTable.compile (List.mem_singleton_self KeyedTable.schema)
  have hkey : MappingSet.keyMapping? (.ofTable KeyedTable.table)
      ((Specification.ofTable KeyedTable.table).rowsOfTarget "T") = some KeyedTable.key := by
    with_unfolding_all rfl
  obtain ⟨hhead, -, hhashed⟩ :=
    hkeys _ (List.mem_singleton_self KeyedTable.mappings) rfl _ hkey
  exact ⟨hsort, hpartition, hhead, hhashed⟩

end Medallion
