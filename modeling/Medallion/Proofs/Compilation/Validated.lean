import Medallion.Proofs.Compilation.Types
import Medallion.Proofs.Names

/-!
# What can still go wrong behind validation

Validation looks each source column up in the source table of its own row, and cleanses the
names of tables and columns once more on the way (`Job.Validated.source`).  The generators do
something else in three places, and there a source name can still make them fail:

* the schema of a target table looks every source column up in the first source table that
  the rows of the target name, whichever table the row itself names;
* a row can name a source column and no source table, and validation passes over it;
* a name that is a marker of an empty number is dropped by the second cleansing, and kept by
  the generators.

`SchemaGap` and `MappingGap` list all reasons for which the two generators fail behind a
validation that succeeded.  The lists are exact: no other error is left, and each reason
makes its generator fail (`validated_failures`).
-/

namespace Medallion

/-! ## What validation guarantees -/

namespace Specification

theorem mem_rowsOfSource {spec : Specification} {table : String} {row : MappingRow} :
    row ∈ spec.rowsOfSource table ↔ row ∈ spec.rows ∧ row.sourceTable = some table := by
  rw [rowsOfSource, List.mem_filter, beq_iff_eq]

theorem mem_rowsOfTarget {spec : Specification} {table : String} {row : MappingRow} :
    row ∈ spec.rowsOfTarget table ↔ row ∈ spec.rows ∧ row.targetTable = some table := by
  rw [rowsOfTarget, List.mem_filter, beq_iff_eq]

theorem isCleansed_of_mem_rowsOfTarget {spec : Specification} {t : Table} {table : String}
    {row : MappingRow} (hspec : spec = ofTable t) (hrow : row ∈ spec.rowsOfTarget table) :
    row.IsCleansed := by
  subst hspec
  exact isCleansed_of_mem (mem_rowsOfTarget.mp hrow).1

/-- A table that is listed has a row. -/
theorem rowsOfTarget_ne_nil {spec : Specification} {t : Table} {table : String}
    (hspec : spec = ofTable t) (htable : table ∈ spec.targetTables) :
    spec.rowsOfTarget table ≠ [] := by
  rw [hspec, mem_targetTables, ← hspec] at htable
  obtain ⟨⟨row, hrow, htarget⟩, -⟩ := htable
  exact List.ne_nil_of_mem (mem_rowsOfTarget.mpr ⟨hrow, htarget⟩)

theorem mem_referencedColumns {t : Table} {table column : String} :
    column ∈ (ofTable t).referencedColumns table ↔
      (∃ row ∈ (ofTable t).rowsOfSource table, row.sourceColumn = some column) ∧
        column ∉ Name.nullMarkers :=
  Name.mem_cleanse_map fun _ hrow => (isCleansed_of_mem (mem_rowsOfSource.mp hrow).1).sourceColumn

/-- A column that is read from a table and is not among the invalid ones is in the schema. -/
theorem hasColumn_of_referenced {spec : Specification} {schemas : SchemaCache}
    {table column : String} {schema : SourceSchema} (hinvalid : spec.invalidColumns schemas = [])
    (htable : table ∈ spec.sourceTables) (hschema : schemas.schema? table = some schema)
    (hcolumn : column ∈ spec.referencedColumns table) : schema.hasColumn column = true := by
  by_contra habsent
  rw [invalidColumns, List.flatMap_eq_nil_iff] at hinvalid
  have hnone := hinvalid table htable
  rw [hschema, List.map_eq_nil_iff, List.filter_eq_nil_iff] at hnone
  exact hnone column hcolumn (by simpa using habsent)

end Specification

/-- A job whose specification is read from a table and has passed validation. -/
structure Job.Validated (job : Job) (t : Table) (resolver : Resolver) : Prop where
  spec : job.spec = .ofTable t
  valid : (validate job.spec job.domain job.tier job.rules resolver).answer =
    .ok ⟨job.spec, job.schemas⟩

namespace Job.Validated

variable {job : Job} {t : Table} {resolver : Resolver} {table : String}

/-- The schema of a row's own source table is known, and the row's source column is in it,
except for names that are markers. -/
theorem source (hjob : job.Validated t resolver) {row : MappingRow} (hrow : row ∈ job.spec.rows)
    (htable : row.sourceTable = some table) (hmarker : table ∉ Name.nullMarkers) :
    ∃ schema, job.schemas.schema? table = some schema ∧
      ∀ column, row.sourceColumn = some column → column ∉ Name.nullMarkers →
        schema.hasColumn column = true := by
  obtain ⟨-, -, -, hresolved, hinvalid⟩ := validate_eq_ok.mp hjob.valid
  have hlisted : table ∈ job.spec.sourceTables := by
    rw [hjob.spec, Specification.mem_sourceTables, ← hjob.spec]
    exact ⟨⟨row, hrow, htable⟩, hmarker⟩
  obtain ⟨schema, hschema⟩ := exists_schema?_of_mem hresolved hlisted
  refine ⟨schema, hschema, fun column hcolumn hplain => ?_⟩
  apply Specification.hasColumn_of_referenced hinvalid hlisted hschema
  rw [hjob.spec, Specification.mem_referencedColumns, ← hjob.spec]
  exact ⟨⟨row, Specification.mem_rowsOfSource.mpr ⟨hrow, htable⟩, hcolumn⟩, hplain⟩

/-- There is no schema under the name of a marker. -/
theorem not_marker (hjob : job.Validated t resolver) {schema : SourceSchema}
    (hschema : job.schemas.schema? table = some schema) : table ∉ Name.nullMarkers := by
  have hresolved := resolved_of_validate hjob.valid
  have hlisted := (schema?_eq_some hresolved hschema).1
  rw [hjob.spec, Specification.mem_sourceTables] at hlisted
  exact hlisted.2

end Job.Validated

/-! ## Schemas of target tables -/

/-- The first source table that the rows of a target table name. -/
def Specification.firstSource? (spec : Specification) (target : String) : Option String :=
  (spec.rowsOfTarget target).findSome? (·.sourceTable)

/-- The errors that are left to the schemas of the target tables of a validated job. -/
inductive SchemaGap (job : Job) (audit : AuditProvider) : MapError → Prop where
  /-- A row has no target column. -/
  | noTargetColumn {table : String} {row : MappingRow}
      (htable : table ∈ job.spec.targetTables) (hrow : row ∈ job.spec.rowsOfTarget table)
      (htarget : row.targetColumn = none) :
      SchemaGap job audit (.schemaGeneration table (.noTargetColumn row.line))
  /-- There are no audit columns for the tier. -/
  | audit {table : String} {problem : AuditProblem} (htable : table ∈ job.spec.targetTables)
      (haudit : audit job.tier = .error problem) :
      SchemaGap job audit (.schemaGeneration table (.audit job.tier problem))
  /-- The first source table has the name of a marker. -/
  | markerTable {table first : String} (htable : table ∈ job.spec.targetTables)
      (hfirst : job.spec.firstSource? table = some first)
      (hmarker : first ∈ Name.nullMarkers) :
      SchemaGap job audit (.schemaGeneration table (.unresolvedTable first))
  /-- A row names a column that the first source table does not have; the row's own source
  table is another one, or none, or the column has the name of a marker. -/
  | unknownColumn {table first column : String} {row : MappingRow} {schema : SourceSchema}
      (htable : table ∈ job.spec.targetTables) (hrow : row ∈ job.spec.rowsOfTarget table)
      (hfirst : job.spec.firstSource? table = some first)
      (hschema : job.schemas.schema? first = some schema)
      (hcolumn : row.sourceColumn = some column) (habsent : schema.column? column = none)
      (hother : row.sourceTable ≠ some first ∨ column ∈ Name.nullMarkers) :
      SchemaGap job audit (.schemaGeneration table (.unknownColumn column schema.tableName))
  /-- A row names a source column, and no row of the target names a source table. -/
  | columnWithoutTable {table column : String} {row : MappingRow}
      (htable : table ∈ job.spec.targetTables) (hrow : row ∈ job.spec.rowsOfTarget table)
      (hfirst : job.spec.firstSource? table = none)
      (hcolumn : row.sourceColumn = some column) :
      SchemaGap job audit (.schemaGeneration table (.columnWithoutTable column))

namespace TargetSchema

variable {job : Job} {audit : AuditProvider} {table : String}

theorem sourceSchema_eq_error {p : SchemaProblem} {rows : List MappingRow}
    (hfails : sourceSchema job rows = .error p) :
    ∃ first, rows.findSome? (·.sourceTable) = some first ∧
      job.schemas.schema? first = none ∧ p = .unresolvedTable first := by
  unfold sourceSchema at hfails
  cases hfirst : rows.findSome? (·.sourceTable) with
  | none => simp [hfirst] at hfails
  | some first =>
    cases hschema : job.schemas.schema? first with
    | none =>
      simp only [hfirst, hschema, Except.error.injEq] at hfails
      exact ⟨first, rfl, hschema, hfails.symm⟩
    | some schema => simp [hfirst, hschema] at hfails

theorem findSome?_of_sourceSchema {rows : List MappingRow}
    (hsource : sourceSchema job rows = .ok none) : rows.findSome? (·.sourceTable) = none := by
  unfold sourceSchema at hsource
  cases hfirst : rows.findSome? (·.sourceTable) with
  | none => rfl
  | some first => cases hschema : job.schemas.schema? first <;> simp [hfirst, hschema] at hsource

theorem rowColumn_eq_error {p : SchemaProblem} {rules : Rules} {source : Option SourceSchema}
    {row : MappingRow} (hfails : rowColumn rules source row = .error p) :
    (row.targetColumn = none ∧ p = .noTargetColumn row.line) ∨
      ∃ column, row.sourceColumn = some column ∧
        ((∃ schema, source = some schema ∧ schema.column? column = none ∧
            p = .unknownColumn column schema.tableName) ∨
          (source = none ∧ p = .columnWithoutTable column)) := by
  unfold rowColumn at hfails
  cases htarget : row.targetColumn with
  | none =>
    simp only [htarget, Except.error.injEq] at hfails
    exact .inl ⟨rfl, hfails.symm⟩
  | some target =>
    right
    rw [htarget] at hfails
    have htype := map_eq_error.mp hfails
    unfold rowType at htype
    cases hcolumn : row.sourceColumn with
    | none => simp [hcolumn] at htype
    | some column =>
      refine ⟨column, rfl, ?_⟩
      cases source with
      | none =>
        simp only [hcolumn, Except.error.injEq] at htype
        exact .inr ⟨rfl, htype.symm⟩
      | some schema =>
        left
        cases hfound : schema.column? column with
        | none =>
          simp only [hcolumn, hfound, Except.error.injEq] at htype
          exact ⟨schema, rfl, hfound, htype.symm⟩
        | some found => simp [hcolumn, hfound] at htype

theorem ofTable_eq_error {e : MapError} (hfails : ofTable job audit table = .error e) :
    ∃ p, e = .schemaGeneration table p ∧
      (job.spec.rowsOfTarget table = [] ∨
        sourceSchema job (job.spec.rowsOfTarget table) = .error p ∨
        (∃ source, sourceSchema job (job.spec.rowsOfTarget table) = .ok source ∧
          ∃ row ∈ job.spec.rowsOfTarget table, rowColumn job.rules source row = .error p) ∨
        ∃ problem, audit job.tier = .error problem ∧ p = .audit job.tier problem) := by
  rw [ofTable] at hfails
  obtain ⟨p, hrows, rfl⟩ := mapError_eq_error.mp hfails
  clear hfails
  refine ⟨p, rfl, ?_⟩
  unfold ofRows at hrows
  split at hrows
  · rename_i hempty
    exact .inl (List.isEmpty_iff.mp hempty)
  · right
    rcases bind_eq_error.mp hrows with hsource | ⟨source, hsource, hrest⟩
    · exact .inl hsource
    · right
      rcases bind_eq_error.mp hrest with hcolumns | ⟨columns, -, hrest⟩
      · exact .inl ⟨source, hsource, exists_of_mapM_eq_error hcolumns⟩
      · right
        rcases bind_eq_error.mp hrest with haudit | ⟨auditColumns, -, hrest⟩
        · obtain ⟨problem, hproblem, rfl⟩ := mapError_eq_error.mp haudit
          exact ⟨problem, hproblem, rfl⟩
        · cases hrest

end TargetSchema

section Schemas

variable {job : Job} {t : Table} {resolver : Resolver} {audit : AuditProvider}

theorem schemaGap_of_ofTable (hjob : job.Validated t resolver) {table : String}
    (htable : table ∈ job.spec.targetTables) {e : MapError}
    (hfails : TargetSchema.ofTable job audit table = .error e) : SchemaGap job audit e := by
  obtain ⟨p, rfl, hreason⟩ := TargetSchema.ofTable_eq_error hfails
  rcases hreason with hempty | hsource | ⟨source, hsource, row, hrow, herror⟩ |
    ⟨problem, haudit, rfl⟩
  · exact absurd hempty (Specification.rowsOfTarget_ne_nil hjob.spec htable)
  · obtain ⟨first, hfirst, hschema, rfl⟩ := TargetSchema.sourceSchema_eq_error hsource
    refine .markerTable htable hfirst ?_
    by_contra hmarker
    -- the row that names the table has a schema for it
    obtain ⟨row, hrow, hrowTable⟩ := List.exists_of_findSome?_eq_some hfirst
    obtain ⟨schema, hsome, -⟩ :=
      hjob.source (Specification.mem_rowsOfTarget.mp hrow).1 hrowTable hmarker
    rw [hschema] at hsome
    cases hsome
  · rcases TargetSchema.rowColumn_eq_error herror with ⟨htarget, rfl⟩ |
      ⟨column, hcolumn, ⟨schema, rfl, habsent, rfl⟩ | ⟨rfl, rfl⟩⟩
    · exact .noTargetColumn htable hrow htarget
    · have hlookup := TargetSchema.sourceSchema_eq_ok hsource
      obtain ⟨first, hfirst, hschema⟩ := Option.bind_eq_some_iff.mp hlookup.symm
      refine .unknownColumn htable hrow hfirst hschema hcolumn habsent ?_
      by_contra hown
      rw [not_or, not_not] at hown
      obtain ⟨schema', hschema', hhas⟩ :=
        hjob.source (Specification.mem_rowsOfTarget.mp hrow).1 hown.1 (hjob.not_marker hschema)
      rw [hschema] at hschema'
      cases hschema'
      have hpresent := hhas column hcolumn hown.2
      rw [SourceSchema.hasColumn, habsent] at hpresent
      cases hpresent
    · exact .columnWithoutTable htable hrow (TargetSchema.findSome?_of_sourceSchema hsource)
        hcolumn
  · exact .audit htable haudit

/-- The type of a source column is looked up in the first source table. -/
theorem sourceType?_of_rowColumn {table column : String} {source : Option SourceSchema}
    {row : MappingRow} {target : Column}
    (hsource : TargetSchema.sourceSchema job (job.spec.rowsOfTarget table) = .ok source)
    (htarget : TargetSchema.rowColumn job.rules source row = .ok target)
    (hcolumn : row.sourceColumn = some column) :
    ∃ type, (job.spec.firstSource? table).bind (job.sourceType? · column) = some type := by
  obtain ⟨type, -, htype⟩ := TargetSchema.rowColumn_eq_ok hsource htarget
  rw [hcolumn] at htype
  exact ⟨type, htype.symm⟩

/-- A row that has no column lets the whole schema fail. -/
theorem exists_error_of_row {table : String} {row : MappingRow}
    (hrow : row ∈ job.spec.rowsOfTarget table)
    (hfails : ∀ source target,
      TargetSchema.sourceSchema job (job.spec.rowsOfTarget table) = .ok source →
        TargetSchema.rowColumn job.rules source row ≠ .ok target) :
    ∃ e, TargetSchema.ofTable job audit table = .error e := by
  refine exists_error_of_ne_ok fun schema hschema => ?_
  obtain ⟨source, columns, auditColumns, hsource, hcolumns, -⟩ :=
    TargetSchema.ofTable_eq_ok hschema
  obtain ⟨target, -, hok⟩ := exists_of_forall₂_left hcolumns hrow
  exact hfails source target hsource hok

/-- Each error that is left makes some schema fail. -/
theorem exists_error_of_schemaGap (hjob : job.Validated t resolver) {e : MapError}
    (hgap : SchemaGap job audit e) :
    ∃ table ∈ job.spec.targetTables, ∃ e', TargetSchema.ofTable job audit table = .error e' := by
  cases hgap with
  | @noTargetColumn table row htable hrow htarget =>
    refine ⟨table, htable, exists_error_of_row hrow fun source target _ hok => ?_⟩
    rw [TargetSchema.rowColumn, htarget] at hok
    cases hok
  | @audit table problem htable haudit =>
    refine ⟨table, htable, exists_error_of_ne_ok fun schema hschema => ?_⟩
    obtain ⟨source, columns, auditColumns, -, -, hok, -⟩ := TargetSchema.ofTable_eq_ok hschema
    rw [haudit] at hok
    cases hok
  | @markerTable table first htable hfirst hmarker =>
    refine ⟨table, htable, exists_error_of_ne_ok fun schema hschema => ?_⟩
    obtain ⟨source, columns, auditColumns, hsource, -⟩ := TargetSchema.ofTable_eq_ok hschema
    have hnone : job.schemas.schema? first = none := by
      by_contra hsome
      obtain ⟨found, hfound⟩ := Option.ne_none_iff_exists'.mp hsome
      exact hjob.not_marker hfound hmarker
    rw [Specification.firstSource?] at hfirst
    rw [TargetSchema.sourceSchema, hfirst] at hsource
    simp [hnone] at hsource
  | @unknownColumn table first column row schema htable hrow hfirst hschema hcolumn habsent _ =>
    refine ⟨table, htable, exists_error_of_row hrow fun source target hsource hok => ?_⟩
    obtain ⟨type, htype⟩ := sourceType?_of_rowColumn hsource hok hcolumn
    simp [hfirst, Job.sourceType?, hschema, habsent] at htype
  | @columnWithoutTable table column row htable hrow hfirst hcolumn =>
    refine ⟨table, htable, exists_error_of_row hrow fun source target hsource hok => ?_⟩
    obtain ⟨type, htype⟩ := sourceType?_of_rowColumn hsource hok hcolumn
    simp [hfirst] at htype

end Schemas

/-! ## Mapping sets -/

/-- The errors that are left to the mapping sets of a validated job. -/
inductive MappingGap (job : Job) : MapError → Prop where
  /-- No tier feeds the job's own. -/
  | noFeeder (hfeeder : job.rules.feeder job.tier = none) :
      MappingGap job (.mappingGeneration "" (.noFeeder job.tier))
  /-- A row has no target column. -/
  | noTargetColumn {table : String} {row : MappingRow}
      (htable : table ∈ job.spec.targetTables) (hrow : row ∈ job.spec.rowsOfTarget table)
      (htarget : row.targetColumn = none) :
      MappingGap job (.mappingGeneration table (.noTargetColumn row.line))
  /-- A source column cannot be found, and it or its table has the name of a marker. -/
  | markerName {table source column : String} {row : MappingRow}
      (htable : table ∈ job.spec.targetTables) (hrow : row ∈ job.spec.rowsOfTarget table)
      (hsource : row.sourceTable = some source) (hcolumn : row.sourceColumn = some column)
      (habsent : (job.schemas.schema? source).bind (·.column? column) = none)
      (hmarker : source ∈ Name.nullMarkers ∨ column ∈ Name.nullMarkers) :
      MappingGap job (.mappingGeneration table (.unresolvedColumn source column))
  /-- There is no merge key, and every row is left out. -/
  | empty {table : String} (htable : table ∈ job.spec.targetTables)
      (hkey : MappingSet.keyMapping? job.spec (job.spec.rowsOfTarget table) = none)
      (hleft : ∀ row ∈ job.spec.rowsOfTarget table, row.isMapped = false) :
      MappingGap job (.emptyMapping table)

namespace MappingSet

variable {job : Job} {table : String}

theorem rowMapping_unrecoverable {row : MappingRow} {e : MapError}
    (hfails : rowMapping job table row = .error e) (hstops : e.isRecoverable = false) :
    (row.targetColumn = none ∧ e = .mappingGeneration table (.noTargetColumn row.line)) ∨
      ∃ source column, row.sourceTable = some source ∧ row.sourceColumn = some column ∧
        (job.schemas.schema? source).bind (·.column? column) = none ∧
        e = .mappingGeneration table (.unresolvedColumn source column) := by
  have hcase := rowCase job table row
  rw [hfails] at hcase
  cases hcase with
  | noTargetColumn htarget => exact .inl ⟨htarget, rfl⟩
  | unresolved _ hsource hcolumn habsent => exact .inr ⟨_, _, hsource, hcolumn, habsent, rfl⟩
  | computed _ _ hresult =>
    have herror := map_eq_error.mp hresult
    unfold computedSource at herror
    split at herror
    · cases herror
    · split at herror
      · cases herror
      · obtain ⟨detail, -, rfl⟩ := mapError_eq_error.mp herror
        cases hstops

theorem rowMapping_of_noTargetColumn {row : MappingRow} (htarget : row.targetColumn = none) :
    ∃ e, rowMapping job table row = .error e ∧ e.isRecoverable = false :=
  ⟨.mappingGeneration table (.noTargetColumn row.line), by rw [rowMapping, htarget], rfl⟩

theorem rowMapping_of_unresolved {row : MappingRow} {source column : String}
    (hsource : row.sourceTable = some source) (hcolumn : row.sourceColumn = some column)
    (habsent : (job.schemas.schema? source).bind (·.column? column) = none) :
    ∃ e, rowMapping job table row = .error e ∧ e.isRecoverable = false := by
  cases htarget : row.targetColumn with
  | none => exact rowMapping_of_noTargetColumn htarget
  | some target =>
    refine ⟨.mappingGeneration table (.unresolvedColumn source column), ?_, rfl⟩
    simp only [rowMapping, htarget, hsource, hcolumn, habsent]

theorem rowMappings_eq_error {rows : List MappingRow} {e : MapError}
    (hfails : rowMappings job table rows = .error e) :
    ∃ row ∈ rows, rowMapping job table row = .error e ∧ e.isRecoverable = false := by
  rw [rowMappings_eq, map_eq_error] at hfails
  obtain ⟨row, hrow, herror⟩ := exists_of_mapM_eq_error hfails
  exact ⟨row, hrow, rowMapping_of_rowResult herror⟩

theorem ofTable_eq_error {feeder : Tier} {e : MapError}
    (hfails : ofTable job feeder table = .error e) :
    (∃ row ∈ job.spec.rowsOfTarget table,
        rowMapping job table row = .error e ∧ e.isRecoverable = false) ∨
      (e = .emptyMapping table ∧ keyMapping? job.spec (job.spec.rowsOfTarget table) = none ∧
        ∀ row ∈ job.spec.rowsOfTarget table, row.isMapped = false) := by
  rcases bind_eq_error.mp hfails with hrows | ⟨columns, hcolumns, hempty⟩
  · exact .inl (rowMappings_eq_error hrows)
  · right
    split at hempty
    · rename_i hnil
      obtain ⟨hkey, rfl⟩ := List.append_eq_nil_iff.mp hnil
      obtain ⟨found, hfound, hnone⟩ := rowMappings_eq_ok hcolumns
      refine ⟨(Except.error.inj hempty).symm, Option.toList_eq_nil_iff.mp hkey,
        fun row hrow => ?_⟩
      obtain ⟨mapping, hmapping, hmaps⟩ := exists_of_forall₂_left hfound hrow
      have hleft := List.filterMap_eq_nil_iff.mp hnone.symm mapping hmapping
      obtain rfl : mapping = none := hleft
      obtain ⟨e', hrowFails, hrecoverable⟩ := hmaps
      exact rowMapping_eq_error hrowFails hrecoverable
    · cases hempty

/-- A row that cannot be mapped and cannot be left out lets the whole set fail. -/
theorem ofTable_ne_ok {feeder : Tier} {set : MappingSet} {row : MappingRow} {e : MapError}
    (hrow : row ∈ job.spec.rowsOfTarget table) (hfails : rowMapping job table row = .error e)
    (hstops : e.isRecoverable = false) : ofTable job feeder table ≠ .ok set := by
  intro hset
  obtain ⟨found, hfound, -⟩ := ofTable_eq_ok hset
  obtain ⟨mapping, -, hmaps⟩ := exists_of_forall₂_left hfound hrow
  cases mapping with
  | some mapping =>
    have hok : rowMapping job table row = .ok mapping := hmaps
    rw [hfails] at hok
    cases hok
  | none =>
    obtain ⟨e', herror, hrecoverable⟩ := hmaps
    rw [hfails] at herror
    cases herror
    rw [hstops] at hrecoverable
    cases hrecoverable

end MappingSet

section Mappings

variable {job : Job} {t : Table} {resolver : Resolver}

theorem mappingGap_of_ofTable (hjob : job.Validated t resolver) {feeder : Tier} {table : String}
    (htable : table ∈ job.spec.targetTables) {e : MapError}
    (hfails : MappingSet.ofTable job feeder table = .error e) : MappingGap job e := by
  rcases MappingSet.ofTable_eq_error hfails with ⟨row, hrow, herror, hstops⟩ |
    ⟨rfl, hkey, hleft⟩
  · rcases MappingSet.rowMapping_unrecoverable herror hstops with ⟨htarget, rfl⟩ |
      ⟨source, column, hsource, hcolumn, habsent, rfl⟩
    · exact .noTargetColumn htable hrow htarget
    · refine .markerName htable hrow hsource hcolumn habsent ?_
      by_contra hplain
      rw [not_or] at hplain
      obtain ⟨schema, hschema, hhas⟩ :=
        hjob.source (Specification.mem_rowsOfTarget.mp hrow).1 hsource hplain.1
      have hpresent := hhas column hcolumn hplain.2
      rw [hschema, Option.bind_some] at habsent
      rw [SourceSchema.hasColumn, habsent] at hpresent
      cases hpresent
  · exact .empty htable hkey hleft

/-- Each error that is left makes the mapping sets fail. -/
theorem exists_error_of_mappingGap {e : MapError} (hgap : MappingGap job e) :
    ∃ e', MappingSet.ofJob job = .error e' := by
  apply exists_error_of_ne_ok
  intro sets hsets
  obtain ⟨feeder, hfeeder, hsets⟩ := MappingSet.ofJob_eq_ok.mp hsets
  cases hgap with
  | noFeeder hnone =>
    rw [hnone] at hfeeder
    cases hfeeder
  | noTargetColumn htable hrow htarget =>
    obtain ⟨set, -, hset⟩ := exists_of_forall₂_left hsets htable
    obtain ⟨e', herror, hstops⟩ := MappingSet.rowMapping_of_noTargetColumn htarget
    exact MappingSet.ofTable_ne_ok hrow herror hstops hset
  | markerName htable hrow hsource hcolumn habsent _ =>
    obtain ⟨set, -, hset⟩ := exists_of_forall₂_left hsets htable
    obtain ⟨e', herror, hstops⟩ := MappingSet.rowMapping_of_unresolved hsource hcolumn habsent
    exact MappingSet.ofTable_ne_ok hrow herror hstops hset
  | empty htable hkey hleft =>
    obtain ⟨set, -, hset⟩ := exists_of_forall₂_left hsets htable
    obtain ⟨found, hfound, rfl⟩ := MappingSet.ofTable_eq_ok hset
    apply MappingSet.columns_ne_nil_of_ofTable hset
    rw [hkey]
    rw [Option.toList_none, List.nil_append, List.filterMap_eq_nil_iff]
    intro mapping hmapping
    obtain ⟨row, hrow, hmaps⟩ := exists_of_forall₂_right hfound hmapping
    cases mapping with
    | none => rfl
    | some mapping =>
      have hmapped := (MappingSet.rowMapping_eq_ok hmaps).1
      rw [hleft row hrow] at hmapped
      cases hmapped

/-- Behind validation the two generators fail for the listed reasons, and for each of
them. -/
theorem validated_failures (hjob : job.Validated t resolver) (audit : AuditProvider) :
    (∀ e, TargetSchema.ofJob job audit = .error e → SchemaGap job audit e) ∧
      (∀ e, SchemaGap job audit e → ∃ e', TargetSchema.ofJob job audit = .error e') ∧
      (∀ e, MappingSet.ofJob job = .error e → MappingGap job e) ∧
      ∀ e, MappingGap job e → ∃ e', MappingSet.ofJob job = .error e' := by
  refine ⟨fun e hfails => ?_, fun e hgap => ?_, fun e hfails => ?_,
    fun e hgap => exists_error_of_mappingGap hgap⟩
  · obtain ⟨table, htable, herror⟩ := exists_of_mapM_eq_error hfails
    exact schemaGap_of_ofTable hjob htable herror
  · exact mapM_error_iff.mpr (exists_error_of_schemaGap hjob hgap)
  · rw [MappingSet.ofJob] at hfails
    split at hfails
    · rename_i hfeeder
      cases hfails
      exact .noFeeder hfeeder
    · obtain ⟨table, htable, herror⟩ := exists_of_mapM_eq_error hfails
      exact mappingGap_of_ofTable hjob htable herror

end Mappings

/-! ## A target table with columns of two source tables -/

namespace SplitColumns

/-- Each row reads a column of its own source table. -/
def table : Table :=
  ⟨Header.all,
    [[.text "A", .text "id", .text "T", .text "X"],
      [.text "B", .text "name", .text "T", .text "Y"]]⟩

/-- The two source tables have no column in common. -/
def resolver : Resolver := fun domain _ table =>
  .ofExcept (.ok (.ofColumns domain table
    [⟨if table = "A" then "id" else "name", if table = "A" then "int" else "varchar"⟩]))

def audit : AuditProvider := fun _ => .ok []

def job : Job where
  domain := "sales"
  tier := .bronze
  rules := .default
  spec := .ofTable table
  schemas :=
    [("A", .ofColumns "sales" "A" [⟨"id", "int"⟩]),
      ("B", .ofColumns "sales" "B" [⟨"name", "varchar"⟩])]

theorem validated : job.Validated table resolver where
  spec := rfl
  valid := by with_unfolding_all rfl

theorem unknownColumn :
    TargetSchema.ofJob job audit =
      .error (.schemaGeneration "T" (.unknownColumn "name" "A")) := by
  with_unfolding_all rfl

end SplitColumns

theorem validated_failures_splitColumns :
    (∀ e, TargetSchema.ofJob SplitColumns.job SplitColumns.audit = .error e →
        SchemaGap SplitColumns.job SplitColumns.audit e) ∧
      (∀ e, SchemaGap SplitColumns.job SplitColumns.audit e →
        ∃ e', TargetSchema.ofJob SplitColumns.job SplitColumns.audit = .error e') ∧
      (∀ e, MappingSet.ofJob SplitColumns.job = .error e → MappingGap SplitColumns.job e) ∧
      ∀ e, MappingGap SplitColumns.job e → ∃ e', MappingSet.ofJob SplitColumns.job = .error e' :=
  validated_failures SplitColumns.validated SplitColumns.audit

/-- The specification passes validation and can be mapped, and its target schema cannot be
made: the column of the second row is looked up in the source table of the first. -/
theorem validated_job_fails :
    SplitColumns.job.Validated SplitColumns.table SplitColumns.resolver ∧
      TargetSchema.ofJob SplitColumns.job SplitColumns.audit =
        .error (.schemaGeneration "T" (.unknownColumn "name" "A")) ∧
      MappingSet.ofJob SplitColumns.job =
        .ok [⟨"sales", "T", .landingZone, .bronze,
          [⟨"X", .integer, .direct "id" .integer⟩, ⟨"Y", .string, .direct "name" .string⟩]⟩] := by
  refine ⟨SplitColumns.validated, SplitColumns.unknownColumn, ?_⟩
  with_unfolding_all rfl

end Medallion
