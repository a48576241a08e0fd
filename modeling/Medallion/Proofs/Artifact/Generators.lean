import Medallion.Artifact.Linkage
import Medallion.Artifact.Mapping
import Medallion.Artifact.TargetSchema
import Medallion.Proofs.Steps

/-!
# What the generators make

Each generator has one lemma that says what it makes when it succeeds:

* `TargetSchema.ofTable_eq_ok`: a column for each row, between the key column and the audit
  columns;
* `MappingSet.ofTable_eq_ok`: a mapping for each row that is not left out, behind the merge
  key; `MappingSet.rowCase` says how the mapping of a single row comes about;
* `Linkage.ofJob_eq_ok`: a linkage for each pair of tables.

The schemas and the mapping sets stand in pairs with the target tables, in their order
(`TargetSchema.ofJob_eq_ok`, `MappingSet.ofJob_eq_ok`).
-/

namespace Medallion

variable {job : Job} {table : String}

namespace TargetSchema

variable {audit : AuditProvider}

theorem ofTable_eq_ok {schema : TargetSchema} (hschema : ofTable job audit table = .ok schema) :
    ∃ source columns auditColumns,
      sourceSchema job (job.spec.rowsOfTarget table) = .ok source ∧
      List.Forall₂ (fun row column => rowColumn job.rules source row = .ok column)
        (job.spec.rowsOfTarget table) columns ∧
      audit job.tier = .ok auditColumns ∧
      schema =
        { domain := job.domain
          tableName := table
          sortColumns := positioned (·.orderBy) (job.spec.rowsOfTarget table) ++
            if job.tier.merges then [mergeKey] else []
          partitionColumns := positioned (·.partitionBy) (job.spec.rowsOfTarget table) ++
            if job.tier.merges then [] else [ingestDate]
          columns := keyColumns job.tier ++ columns ++ auditColumns } := by
  rw [ofTable, mapError_eq_ok, ofRows] at hschema
  split at hschema
  · cases hschema
  · obtain ⟨source, hsource, hschema⟩ := bind_eq_ok.mp hschema
    obtain ⟨columns, hcolumns, hschema⟩ := bind_eq_ok.mp hschema
    obtain ⟨auditColumns, haudit, hschema⟩ := bind_eq_ok.mp hschema
    rw [mapError_eq_ok] at haudit
    rw [mapM_eq_ok] at hcolumns
    exact ⟨source, columns, auditColumns, hsource, hcolumns, haudit,
      (Except.ok.inj hschema).symm⟩

theorem tableName_of_ofTable {schema : TargetSchema}
    (hschema : ofTable job audit table = .ok schema) : schema.tableName = table := by
  obtain ⟨_, _, _, _, _, _, rfl⟩ := ofTable_eq_ok hschema
  rfl

theorem ofJob_eq_ok {schemas : List TargetSchema} :
    ofJob job audit = .ok schemas ↔
      List.Forall₂ (fun table schema => ofTable job audit table = .ok schema)
        job.spec.targetTables schemas :=
  mapM_eq_ok

theorem fileNames_of_ofJob {schemas : List TargetSchema}
    (hschemas : ofJob job audit = .ok schemas) :
    schemas.map (·.fileName job.tier) =
      job.spec.targetTables.map fun table => schemaFileName job.tier table := by
  refine map_eq_map_of_forall₂ (fun table schema hschema => ?_) (ofJob_eq_ok.mp hschemas)
  obtain ⟨_, _, _, _, _, _, rfl⟩ := ofTable_eq_ok hschema
  rfl

theorem tableNames_of_ofJob {schemas : List TargetSchema}
    (hschemas : ofJob job audit = .ok schemas) :
    schemas.map (·.tableName) = job.spec.targetTables := by
  rw [map_eq_map_of_forall₂ (g := id) (fun table schema hschema => ?_) (ofJob_eq_ok.mp hschemas),
    List.map_id]
  exact tableName_of_ofTable hschema

end TargetSchema

namespace MappingSet

/-- The ways in which the mapping of a row comes about. -/
inductive RowCase (job : Job) (table : String) (row : MappingRow) :
    Except MapError ColumnMapping → Prop where
  | noTargetColumn (htarget : row.targetColumn = none) :
      RowCase job table row (.error (.mappingGeneration table (.noTargetColumn row.line)))
  | direct {name source column : String} {found : Column}
      (htarget : row.targetColumn = some name) (hsource : row.sourceTable = some source)
      (hcolumn : row.sourceColumn = some column)
      (hfound : (job.schemas.schema? source).bind (·.column? column) = some found) :
      RowCase job table row (.ok ⟨name, job.rules.mapType found.type,
        .direct column (job.rules.mapType found.type)⟩)
  | unresolved {name source column : String} (htarget : row.targetColumn = some name)
      (hsource : row.sourceTable = some source) (hcolumn : row.sourceColumn = some column)
      (habsent : (job.schemas.schema? source).bind (·.column? column) = none) :
      RowCase job table row (.error (.mappingGeneration table (.unresolvedColumn source column)))
  /-- The row does not read a source column of a table. -/
  | computed {name : String} {result : Except MapError ColumnMapping}
      (htarget : row.targetColumn = some name)
      (hnone : (row.sourceTable.isSome && row.sourceColumn.isSome) = false)
      (hresult : (computedSource table name row).map
        (fun source => ⟨name, job.rules.mapOptionalType row.dataType, source⟩) = result) :
      RowCase job table row result

theorem rowCase (job : Job) (table : String) (row : MappingRow) :
    RowCase job table row (rowMapping job table row) := by
  unfold rowMapping
  cases htarget : row.targetColumn with
  | none => exact .noTargetColumn htarget
  | some name =>
    cases hsource : row.sourceTable with
    | none => exact .computed htarget (by simp [hsource]) rfl
    | some source =>
      cases hcolumn : row.sourceColumn with
      | none => exact .computed htarget (by simp [hcolumn]) rfl
      | some column =>
        dsimp only
        cases hfound : (job.schemas.schema? source).bind (·.column? column) with
        | none => exact .unresolved htarget hsource hcolumn hfound
        | some found => exact .direct htarget hsource hcolumn hfound

/-- The mapping of a row, or none if the row is left out. -/
def MapsTo (job : Job) (table : String) (row : MappingRow) : Option ColumnMapping → Prop
  | some mapping => rowMapping job table row = .ok mapping
  | none => ∃ e, rowMapping job table row = .error e ∧ e.isRecoverable = true

/-- The mapping of a row, or none for a row that is left out. -/
def rowResult (job : Job) (table : String) (row : MappingRow) :
    Except MapError (Option ColumnMapping) :=
  match rowMapping job table row with
  | .ok mapping => .ok (some mapping)
  | .error e => if e.isRecoverable then .ok none else .error e

section Results

variable {row : MappingRow} {mapping : ColumnMapping} {found : Option ColumnMapping}
  {e : MapError}

theorem rowResult_of_ok (hrow : rowMapping job table row = .ok mapping) :
    rowResult job table row = .ok (some mapping) := by
  rw [rowResult, hrow]

theorem rowResult_of_recoverable (hrow : rowMapping job table row = .error e)
    (hrecoverable : e.isRecoverable = true) : rowResult job table row = .ok none := by
  rw [rowResult, hrow]
  exact if_pos hrecoverable

theorem rowResult_of_error (hrow : rowMapping job table row = .error e)
    (hstops : e.isRecoverable = false) : rowResult job table row = .error e := by
  rw [rowResult, hrow]
  exact if_neg (ne_true_of_eq_false hstops)

/-- A row has a mapping, is left out, or stops the generation. -/
theorem rowResult_cases (job : Job) (table : String) (row : MappingRow) :
    (∃ found, MapsTo job table row found ∧ rowResult job table row = .ok found) ∨
      ∃ e, rowMapping job table row = .error e ∧ e.isRecoverable = false ∧
        rowResult job table row = .error e := by
  cases hrow : rowMapping job table row with
  | ok mapping => exact .inl ⟨some mapping, hrow, rowResult_of_ok hrow⟩
  | error e =>
    cases hrecoverable : e.isRecoverable with
    | true =>
      exact .inl ⟨none, ⟨e, hrow, hrecoverable⟩, rowResult_of_recoverable hrow hrecoverable⟩
    | false => exact .inr ⟨e, rfl, hrecoverable, rowResult_of_error hrow hrecoverable⟩

theorem mapsTo_of_rowResult (hresult : rowResult job table row = .ok found) :
    MapsTo job table row found := by
  rcases rowResult_cases job table row with ⟨found', hmaps, hok⟩ | ⟨e, -, -, herror⟩
  · rw [hok] at hresult
    rwa [Except.ok.inj hresult] at hmaps
  · rw [herror] at hresult
    cases hresult

theorem rowMapping_of_rowResult (hresult : rowResult job table row = .error e) :
    rowMapping job table row = .error e ∧ e.isRecoverable = false := by
  rcases rowResult_cases job table row with ⟨found, -, hok⟩ | ⟨e', hrow, hstops, herror⟩
  · rw [hok] at hresult
    cases hresult
  · rw [herror] at hresult
    obtain rfl := Except.error.inj hresult
    exact ⟨hrow, hstops⟩

end Results

/-- The mappings of some rows are those that the rows have one by one. -/
theorem rowMappings_eq (job : Job) (table : String) (rows : List MappingRow) :
    rowMappings job table rows =
      (rows.mapM (rowResult job table)).map (·.filterMap id) := by
  induction rows with
  | nil => rfl
  | cons row rows ih =>
    rw [List.mapM_cons, rowMappings]
    cases hrow : rowMapping job table row with
    | ok mapping =>
      rw [rowResult_of_ok hrow, ih]
      cases rows.mapM (rowResult job table) <;> rfl
    | error e =>
      dsimp only
      cases hrecoverable : e.isRecoverable with
      | true =>
        rw [rowResult_of_recoverable hrow hrecoverable, if_pos rfl, ih]
        cases rows.mapM (rowResult job table) <;> rfl
      | false =>
        rw [rowResult_of_error hrow hrecoverable]
        exact if_neg Bool.false_ne_true

theorem rowMappings_eq_ok {rows : List MappingRow} {columns : List ColumnMapping}
    (hcolumns : rowMappings job table rows = .ok columns) :
    ∃ found, List.Forall₂ (MapsTo job table) rows found ∧ columns = found.filterMap id := by
  rw [rowMappings_eq] at hcolumns
  obtain ⟨found, hfound, rfl⟩ := map_eq_ok.mp hcolumns
  exact ⟨found, (mapM_eq_ok.mp hfound).imp fun _ _ => mapsTo_of_rowResult, rfl⟩

theorem ofTable_eq_ok {feeder : Tier} {set : MappingSet}
    (hset : ofTable job feeder table = .ok set) :
    ∃ found, List.Forall₂ (MapsTo job table) (job.spec.rowsOfTarget table) found ∧
      set =
        { domain := job.domain
          tableName := table
          source := feeder
          target := job.tier
          columns := (keyMapping? job.spec (job.spec.rowsOfTarget table)).toList ++
            found.filterMap id } := by
  obtain ⟨columns, hcolumns, hset⟩ := bind_eq_ok.mp hset
  obtain ⟨found, hfound, rfl⟩ := rowMappings_eq_ok hcolumns
  split at hset
  · cases hset
  · exact ⟨found, hfound, (Except.ok.inj hset).symm⟩

theorem tableName_of_ofTable {feeder : Tier} {set : MappingSet}
    (hset : ofTable job feeder table = .ok set) : set.tableName = table := by
  obtain ⟨_, _, rfl⟩ := ofTable_eq_ok hset
  rfl

theorem columns_ne_nil_of_ofTable {feeder : Tier} {set : MappingSet}
    (hset : ofTable job feeder table = .ok set) : set.columns ≠ [] := by
  obtain ⟨columns, -, hset⟩ := bind_eq_ok.mp hset
  split at hset
  · cases hset
  · rename_i hne
    cases hset
    exact hne

theorem ofJob_eq_ok {sets : List MappingSet} :
    ofJob job = .ok sets ↔
      ∃ feeder, job.rules.feeder job.tier = some feeder ∧
        List.Forall₂ (fun table set => ofTable job feeder table = .ok set)
          job.spec.targetTables sets := by
  unfold ofJob
  cases hfeeder : job.rules.feeder job.tier with
  | none => simp
  | some feeder => simp [mapM_eq_ok]

theorem fileNames_of_ofJob {sets : List MappingSet} (hsets : ofJob job = .ok sets) :
    sets.map (·.fileName) =
      job.spec.targetTables.map fun table => job.tier.name ++ "_map_" ++ table ++ ".json" := by
  obtain ⟨feeder, -, hsets⟩ := ofJob_eq_ok.mp hsets
  refine map_eq_map_of_forall₂ (fun table set hset => ?_) hsets
  obtain ⟨_, _, rfl⟩ := ofTable_eq_ok hset
  rfl

theorem tableNames_of_ofJob {sets : List MappingSet} (hsets : ofJob job = .ok sets) :
    sets.map (·.tableName) = job.spec.targetTables := by
  obtain ⟨feeder, -, hsets⟩ := ofJob_eq_ok.mp hsets
  rw [map_eq_map_of_forall₂ (g := id) (fun table set hset => ?_) hsets, List.map_id]
  exact tableName_of_ofTable hset

end MappingSet

theorem Linkage.ofJob_eq_ok {tablePath : String} {linkages : List Linkage} :
    ofJob job tablePath = .ok linkages ↔
      ∃ feeder, job.rules.feeder job.tier = some feeder ∧
        linkages = (pairs job.spec.rows).map fun pair =>
          ⟨feeder, tablePath, pair.1, job.tier, tablePath, pair.2⟩ := by
  unfold ofJob
  cases hfeeder : job.rules.feeder job.tier with
  | none => simp
  | some feeder => simp [eq_comm]

end Medallion
