import Medallion.Proofs.Artifact.Ranking
import Medallion.Proofs.Compilation.ColumnNames

/-!
# What the schema of a target table contains

`IsSchemaOf` says what the schema of a target table is, without the steps in which it is made:

* one column for each row, in the order of the rows, of the type that the row declares or of
  the type of its source column in the first source table that the rows name (`ColumnOf`);
* the merge key in front of them if the tier merges, and the audit columns behind them;
* the sort columns and the partition columns in the order of their cells (`IsPositioned`), with
  the name that the tier adds to one of the two lists at the end.

For a specification that is read from a table, a job has schemas if and only if each of its
target tables has one of this kind, and then it has these (`target_schemas_iff`).  There is
only one order in which the rows of a table can rank.

The names in a list of positioned columns are cleansed once more, so a target column with the
name of a marker has a column in the schema and is in neither list.
-/

namespace Medallion

namespace TargetSchema

variable {job : Job} {audit : AuditProvider} {table : String} {rows : List MappingRow}
  {row : MappingRow} {source : Option SourceSchema}

/-! ## Columns of rows -/

/-- The first of some columns that has a name. -/
def IsFirstNamed (name : String) (columns : List Column) (found : Column) : Prop :=
  ∃ before after, columns = before ++ found :: after ∧ found.name = name ∧
    ∀ column ∈ before, column.name ≠ name

theorem column?_eq_some_iff {schema : SourceSchema} {name : String} {found : Column} :
    schema.column? name = some found ↔ IsFirstNamed name schema.columns found := by
  rw [SourceSchema.column?, List.find?_eq_some_iff_append]
  constructor
  · rintro ⟨hname, before, after, hcolumns, hbefore⟩
    refine ⟨before, after, hcolumns, eq_of_beq hname, fun column hcolumn => ?_⟩
    simpa using hbefore column hcolumn
  · rintro ⟨before, after, hcolumns, hname, hbefore⟩
    refine ⟨beq_iff_eq.mpr hname, before, after, hcolumns, fun column hcolumn => ?_⟩
    simpa using hbefore column hcolumn

/-- The column that one of some rows has in the schema of their table. -/
inductive ColumnOf (job : Job) (rows : List MappingRow) (row : MappingRow) : Column → Prop
  | declared {name : String} (htarget : row.targetColumn = some name)
      (hnone : row.sourceColumn = none) :
      ColumnOf job rows row ⟨name, (job.rules.mapOptionalType row.dataType).name⟩
  | read {name column first : String} {schema : SourceSchema} {found : Column}
      (htarget : row.targetColumn = some name) (hcolumn : row.sourceColumn = some column)
      (hfirst : rows.findSome? (·.sourceTable) = some first)
      (hschema : job.schemas.schema? first = some schema)
      (hfound : IsFirstNamed column schema.columns found) :
      ColumnOf job rows row ⟨name, (job.rules.mapType found.type).name⟩

/-- The rows of a table have a source schema unless there is none for the first table that
they name. -/
theorem sourceSchema_eq_ok_iff :
    sourceSchema job rows = .ok source ↔
      source = (rows.findSome? (·.sourceTable)).bind job.schemas.schema? ∧
        ∀ first, rows.findSome? (·.sourceTable) = some first →
          ∃ schema, job.schemas.schema? first = some schema := by
  constructor
  · intro hsource
    refine ⟨sourceSchema_eq_ok hsource, fun first hfirst => ?_⟩
    unfold sourceSchema at hsource
    rw [hfirst] at hsource
    cases hschema : job.schemas.schema? first with
    | none => simp [hschema] at hsource
    | some schema => exact ⟨schema, rfl⟩
  · rintro ⟨rfl, hresolved⟩
    unfold sourceSchema
    cases hfirst : rows.findSome? (·.sourceTable) with
    | none => rfl
    | some first =>
      obtain ⟨schema, hschema⟩ := hresolved first hfirst
      simp [hschema]

theorem rowColumn_eq_ok_iff {column : Column} (hsource : sourceSchema job rows = .ok source) :
    rowColumn job.rules source row = .ok column ↔ ColumnOf job rows row column := by
  constructor
  · intro hcolumn
    have htarget := targetColumn_of_rowColumn hcolumn
    obtain ⟨type, htype, hlookup⟩ := rowColumn_eq_ok hsource hcolumn
    obtain ⟨name, typeName⟩ := column
    obtain rfl : typeName = type.name := htype
    cases hread : row.sourceColumn with
    | none =>
      rw [hread] at hlookup
      obtain rfl := Option.some.inj hlookup
      exact .declared htarget hread
    | some sourceColumn =>
      rw [hread] at hlookup
      obtain ⟨first, hfirst, htype⟩ := Option.bind_eq_some_iff.mp hlookup.symm
      obtain ⟨found, hfound, rfl⟩ := Option.map_eq_some_iff.mp htype
      obtain ⟨schema, hschema, hfound⟩ := Option.bind_eq_some_iff.mp hfound
      exact .read htarget hread hfirst hschema (column?_eq_some_iff.mp hfound)
  · intro hcolumn
    obtain rfl := sourceSchema_eq_ok hsource
    cases hcolumn with
    | declared htarget hnone =>
      simp only [rowColumn, htarget, rowType, hnone]
      rfl
    | read htarget hcolumn hfirst hschema hfound =>
      have hfound := column?_eq_some_iff.mpr hfound
      simp only [rowColumn, htarget, rowType, hcolumn, hfirst, Option.bind_some, hschema, hfound]
      rfl

/-! ## Schemas of tables -/

/-- The schema of a target table. -/
structure IsSchemaOf (job : Job) (audit : AuditProvider) (table : String)
    (schema : TargetSchema) : Prop where
  domain : schema.domain = job.domain
  tableName : schema.tableName = table
  /-- There is a schema for the first source table that the rows name. -/
  resolved : ∀ first, job.spec.firstSource? table = some first →
    ∃ source, job.schemas.schema? first = some source
  columns : ∃ columns auditColumns,
    List.Forall₂ (ColumnOf job (job.spec.rowsOfTarget table)) (job.spec.rowsOfTarget table)
      columns ∧
    audit job.tier = .ok auditColumns ∧
    schema.columns = (if job.tier.merges then [⟨"MergeKey", "string"⟩] else []) ++ columns ++
      auditColumns
  sortColumns : ∃ names, IsPositioned (·.orderBy) (job.spec.rowsOfTarget table) names ∧
    schema.sortColumns = names ++ if job.tier.merges then ["MergeKey"] else []
  partitionColumns : ∃ names, IsPositioned (·.partitionBy) (job.spec.rowsOfTarget table) names ∧
    schema.partitionColumns = names ++ if job.tier.merges then [] else ["IngestDate"]

/-- The schema of a table is made from its parts. -/
theorem ofTable_of_parts {columns auditColumns : List Column}
    (hrows : job.spec.rowsOfTarget table ≠ [])
    (hsource : sourceSchema job (job.spec.rowsOfTarget table) = .ok source)
    (hcolumns : List.Forall₂ (fun row column => rowColumn job.rules source row = .ok column)
      (job.spec.rowsOfTarget table) columns)
    (haudit : audit job.tier = .ok auditColumns) :
    ofTable job audit table = .ok
      { domain := job.domain
        tableName := table
        sortColumns := positioned (·.orderBy) (job.spec.rowsOfTarget table) ++
          if job.tier.merges then [mergeKey] else []
        partitionColumns := positioned (·.partitionBy) (job.spec.rowsOfTarget table) ++
          if job.tier.merges then [] else [ingestDate]
        columns := keyColumns job.tier ++ columns ++ auditColumns } := by
  have hnonempty : ¬ (job.spec.rowsOfTarget table).isEmpty = true := by
    rwa [List.isEmpty_iff]
  rw [ofTable, mapError_eq_ok, ofRows, if_neg hnonempty]
  refine bind_eq_ok.mpr ⟨source, hsource, ?_⟩
  refine bind_eq_ok.mpr ⟨columns, mapM_eq_ok.mpr hcolumns, ?_⟩
  exact bind_eq_ok.mpr ⟨auditColumns, mapError_eq_ok.mpr haudit, rfl⟩

theorem ofTable_eq_ok_iff {t : Table} {schema : TargetSchema} (hspec : job.spec = .ofTable t)
    (htable : table ∈ job.spec.targetTables) :
    ofTable job audit table = .ok schema ↔ IsSchemaOf job audit table schema := by
  have hlines : (job.spec.rowsOfTarget table).Pairwise fun a b => a.line < b.line := by
    rw [hspec]
    exact Specification.pairwise_line_ofTable t table
  constructor
  · intro hschema
    obtain ⟨source, columns, auditColumns, hsource, hcolumns, haudit, rfl⟩ :=
      ofTable_eq_ok hschema
    have hresolved := (sourceSchema_eq_ok_iff.mp hsource).2
    have hcolumns := hcolumns.imp fun _ _ => (rowColumn_eq_ok_iff hsource).mp
    exact ⟨rfl, rfl, hresolved, ⟨columns, auditColumns, hcolumns, haudit, rfl⟩,
      ⟨_, (isPositioned_iff hlines).mpr rfl, rfl⟩, ⟨_, (isPositioned_iff hlines).mpr rfl, rfl⟩⟩
  · intro hschema
    have hrows := Specification.rowsOfTarget_ne_nil hspec htable
    obtain ⟨columns, auditColumns, hcolumns, haudit, hall⟩ := hschema.columns
    obtain ⟨sortNames, hsort, hsortColumns⟩ := hschema.sortColumns
    obtain ⟨partitionNames, hpartition, hpartitionColumns⟩ := hschema.partitionColumns
    have hsource := sourceSchema_eq_ok_iff.mpr ⟨rfl, hschema.resolved⟩
    have hcolumns := hcolumns.imp fun _ _ => (rowColumn_eq_ok_iff hsource).mpr
    rw [(isPositioned_iff hlines).mp hsort] at hsortColumns
    rw [(isPositioned_iff hlines).mp hpartition] at hpartitionColumns
    rw [ofTable_of_parts hrows hsource hcolumns haudit]
    obtain ⟨domain, tableName, sortColumns, partitionColumns, columns⟩ := schema
    obtain rfl : domain = job.domain := hschema.domain
    obtain rfl : tableName = table := hschema.tableName
    dsimp only at hall hsortColumns hpartitionColumns
    subst hall hsortColumns hpartitionColumns
    rfl

end TargetSchema

/-! ## A table whose rows are not in the order of their positions -/

namespace RankedRows

/-- The cells for the sort order are a word, a number twice, and a truth value; the second and
the fourth one are level.  `X` is the target of two rows. -/
def table : Table :=
  ⟨Header.all,
    [[.text "A", .text "id", .text "T", .text "X", .text "b"],
      [.text "A", .text "id", .text "T", .text "Y", .text "2"],
      [.empty, .empty, .text "T", .text "X", .bool true, .bool true],
      [.text "B", .empty, .text "T", .text "Z", .text "2.0"]]⟩

/-- Two columns have the same name. -/
def source : SourceSchema := ⟨"sales", "A", [], [⟨"id", "int"⟩, ⟨"id", "bigint"⟩]⟩

def job : Job := ⟨"sales", .silver, .default, .ofTable table, [("A", source)]⟩

def audit : AuditProvider := fun _ => .ok [⟨"LoadDate", "timestamp"⟩]

def word : MappingRow :=
  ⟨1, some "A", some "id", some "T", some "X", none, .text "b", .empty, none, none, none⟩

def number : MappingRow :=
  ⟨2, some "A", some "id", some "T", some "Y", none, .text "2", .empty, none, none, none⟩

def truth : MappingRow :=
  ⟨3, none, none, some "T", some "X", none, .bool true, .bool true, none, none, none⟩

def level : MappingRow :=
  ⟨4, some "B", none, some "T", some "Z", none, .text "2.0", .empty, none, none, none⟩

def schema : TargetSchema :=
  ⟨"sales", "T", ["X", "Y", "Z", "MergeKey"], ["X"],
    [⟨"MergeKey", "string"⟩, ⟨"X", "integer"⟩, ⟨"Y", "integer"⟩, ⟨"X", "string"⟩,
      ⟨"Z", "string"⟩, ⟨"LoadDate", "timestamp"⟩]⟩

theorem rows_eq : job.spec.rowsOfTarget "T" = [word, number, truth, level] := by
  with_unfolding_all rfl

theorem isRanking : IsRanking (·.orderBy) [word, number, truth, level]
    [truth, number, level, word] :=
  ⟨by decide +kernel, by decide +kernel⟩

theorem sortColumns : IsPositioned (·.orderBy) [word, number, truth, level] ["X", "Y", "Z"] := by
  refine ⟨_, isRanking, ?_⟩
  have hfirst : ["X", "Y", "Z", "X"].eraseDups = ["X", "Y", "Z"] := by decide +kernel
  rw [← hfirst]
  exact inFirstOrder_eraseDups _

theorem partitionColumns : IsPositioned (·.partitionBy) [word, number, truth, level] ["X"] :=
  ⟨[truth], ⟨by decide +kernel, List.pairwise_singleton _ _⟩, inFirstOrder_eraseDups ["X"]⟩

theorem columns : List.Forall₂ (TargetSchema.ColumnOf job [word, number, truth, level])
    [word, number, truth, level]
    [⟨"X", "integer"⟩, ⟨"Y", "integer"⟩, ⟨"X", "string"⟩, ⟨"Z", "string"⟩] := by
  have hfound : TargetSchema.IsFirstNamed "id" [⟨"id", "int"⟩, ⟨"id", "bigint"⟩] ⟨"id", "int"⟩ :=
    ⟨[], [⟨"id", "bigint"⟩], rfl, rfl, by simp⟩
  have hread : (job.rules.mapType "int").name = "integer" := by decide +kernel
  have hdeclared : (job.rules.mapOptionalType none).name = "string" := by decide +kernel
  rw [← hread, ← hdeclared]
  have hid (row : MappingRow) (name : String) (htarget : row.targetColumn = some name)
      (hcolumn : row.sourceColumn = some "id") :
      TargetSchema.ColumnOf job [word, number, truth, level] row
        ⟨name, (job.rules.mapType "int").name⟩ :=
    @TargetSchema.ColumnOf.read job _ row name "id" "A" source ⟨"id", "int"⟩ htarget hcolumn rfl
      rfl hfound
  refine .cons ?_ (.cons ?_ (.cons ?_ (.cons ?_ .nil)))
  · exact hid word "X" rfl rfl
  · exact hid number "Y" rfl rfl
  · exact .declared rfl rfl
  · exact .declared rfl rfl

end RankedRows

end Medallion
