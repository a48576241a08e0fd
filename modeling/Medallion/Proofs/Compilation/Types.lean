import Medallion.Proofs.Artifact.Generators
import Medallion.Proofs.Compilation.Compile

/-!
# The type of a column in the schema and in the mapping set

The schema and the mapping set of a target table find the type of a row in two ways.  The
schema looks the source column up in the first source table that the rows of the target
name.  The mapping set looks it up in the row's own source table, and takes the declared
type of a row that names none.

* `exists_lines` sets the columns of the schema and those of the mapping set side by
  side, row by row: the mapping set lacks the rows whose function cannot be read, so what
  follows them stands at other places.
* `column_type_agrees_iff`: the two types of a row are the same if and only if both ways
  lead to the same type (`Compiler.TypesMeet`).  With several source tables, or with a row
  that names a source column but no source table, they need not be.
-/

namespace Medallion

/-! ## Types of rows -/

/-- Whether the values of a row come from a source column, from a function that can be
read, or from nowhere, so that its target table has a mapping for it. -/
def MappingRow.isMapped (row : MappingRow) : Bool :=
  (row.sourceTable.isSome && row.sourceColumn.isSome) ||
    match row.transformation with
    | none => true
    | some text =>
      Text.isBlankText text ||
        match Json.parse? text with
        | some (.object _) => true
        | _ => false

/-- The type of a source column in the schema of its table. -/
def Job.sourceType? (job : Job) (table column : String) : Option DataType :=
  ((job.schemas.schema? table).bind (·.column? column)).map fun c => job.rules.mapType c.type

theorem DataType.name_inj {t t' : DataType} : t.name = t'.name ↔ t = t' := by
  constructor
  · intro h
    have hofName := congrArg DataType.ofName? h
    rw [DataType.ofName?_name, DataType.ofName?_name] at hofName
    exact Option.some.inj hofName
  · rintro rfl
    rfl

namespace TargetSchema

variable {job : Job} {rows : List MappingRow} {source : Option SourceSchema} {row : MappingRow}

theorem sourceSchema_eq_ok (hsource : sourceSchema job rows = .ok source) :
    source = (rows.findSome? (·.sourceTable)).bind job.schemas.schema? := by
  unfold sourceSchema at hsource
  cases htable : rows.findSome? (·.sourceTable) with
  | none =>
    rw [htable] at hsource
    exact (Except.ok.inj hsource).symm
  | some table =>
    rw [htable] at hsource
    cases hschema : job.schemas.schema? table with
    | none => simp [hschema] at hsource
    | some schema =>
      simp only [hschema, Except.ok.injEq] at hsource
      rw [Option.bind_some, hschema, hsource]

/-- The type of a row in the schema of its target table: the declared one, or the one of its
source column in the first source table of the rows. -/
theorem rowColumn_eq_ok {column : Column} (hsource : sourceSchema job rows = .ok source)
    (hcolumn : rowColumn job.rules source row = .ok column) :
    ∃ type : DataType, column.type = type.name ∧
      some type = match row.sourceColumn with
        | none => some (job.rules.mapOptionalType row.dataType)
        | some name => (rows.findSome? (·.sourceTable)).bind (job.sourceType? · name) := by
  unfold rowColumn at hcolumn
  cases htarget : row.targetColumn with
  | none => simp [htarget] at hcolumn
  | some target =>
    rw [htarget] at hcolumn
    obtain ⟨type, htype, rfl⟩ := map_eq_ok.mp hcolumn
    refine ⟨type, rfl, ?_⟩
    unfold rowType at htype
    cases hname : row.sourceColumn with
    | none =>
      rw [hname] at htype
      exact congrArg some (Except.ok.inj htype).symm
    | some name =>
      rw [hname, sourceSchema_eq_ok hsource] at htype
      cases htable : rows.findSome? (·.sourceTable) with
      | none => simp [htable] at htype
      | some table =>
        cases hschema : job.schemas.schema? table with
        | none => simp [htable, hschema] at htype
        | some schema =>
          cases hfound : schema.column? name with
          | none => simp [htable, hschema, hfound] at htype
          | some found =>
            simp only [htable, hschema, hfound, Option.bind_some, Except.ok.injEq] at htype
            simp [Job.sourceType?, hschema, hfound, htype]

end TargetSchema

namespace MappingSet

variable {job : Job} {table : String} {row : MappingRow} {mapping : ColumnMapping}

theorem computedSource_eq_ok {name : String} {source : ColumnSource}
    (hsource : computedSource table name row = .ok source) : row.isMapped = true := by
  unfold computedSource at hsource
  unfold MappingRow.isMapped
  rw [Bool.or_eq_true]
  right
  cases htext : row.transformation with
  | none => rfl
  | some text =>
    rw [htext] at hsource
    dsimp only at hsource ⊢
    split at hsource
    · rename_i hblank
      rw [hblank, Bool.true_or]
    · rw [mapError_eq_ok, ColumnSource.parseFunction] at hsource
      cases hparse : Json.parse? text with
      | none => simp [hparse] at hsource
      | some value => cases value <;> simp [hparse] at hsource ⊢

theorem computedSource_eq_error {name : String} {e : MapError}
    (hfails : computedSource table name row = .error e)
    (hsource : (row.sourceTable.isSome && row.sourceColumn.isSome) = false) :
    row.isMapped = false := by
  unfold computedSource at hfails
  unfold MappingRow.isMapped
  rw [hsource, Bool.false_or]
  cases htext : row.transformation with
  | none => simp [htext] at hfails
  | some text =>
    rw [htext] at hfails
    dsimp only at hfails ⊢
    split at hfails
    · simp at hfails
    · rename_i hblank
      rw [eq_false_of_ne_true hblank, Bool.false_or]
      unfold ColumnSource.parseFunction at hfails
      cases hparse : Json.parse? text with
      | none => rfl
      | some value => cases value <;> simp [hparse, Except.mapError] at hfails ⊢

/-- The type of a row in the mapping set of its target table: the one of its source column
in its own source table, or else the declared one. -/
theorem rowMapping_eq_ok (hmapping : rowMapping job table row = .ok mapping) :
    row.isMapped = true ∧
      some mapping.type = match row.sourceTable, row.sourceColumn with
        | some own, some name => job.sourceType? own name
        | _, _ => some (job.rules.mapOptionalType row.dataType) := by
  have hcase := rowCase job table row
  rw [hmapping] at hcase
  cases hcase with
  | direct _ hown hname hfound =>
    simp [MappingRow.isMapped, Job.sourceType?, hown, hname, hfound]
  | computed _ hnone hresult =>
    obtain ⟨source, hsource, rfl⟩ := map_eq_ok.mp hresult
    refine ⟨computedSource_eq_ok hsource, ?_⟩
    split
    · rename_i hown hname
      simp [hown, hname] at hnone
    · rfl

/-- Only a function that cannot be read lets a row be left out. -/
theorem rowMapping_eq_error {e : MapError} (hfails : rowMapping job table row = .error e)
    (hrecoverable : e.isRecoverable = true) : row.isMapped = false := by
  have hcase := rowCase job table row
  rw [hfails] at hcase
  cases hcase with
  | noTargetColumn _ => cases hrecoverable
  | unresolved _ _ _ _ => cases hrecoverable
  | computed _ hnone hresult => exact computedSource_eq_error (map_eq_error.mp hresult) hnone

end MappingSet

/-! ## Side by side -/

/-- A row of a target table, the column that the schema has for it, and the mapping that the
mapping set has for it unless it is left out. -/
structure TableLine where
  row : MappingRow
  column : Column
  mapping : Option ColumnMapping

/-- Columns and mappings that both go with some rows can be set side by side. -/
theorem exists_lines {P : MappingRow → Column → Prop}
    {Q : MappingRow → Option ColumnMapping → Prop} {rows : List MappingRow}
    {columns : List Column} {found : List (Option ColumnMapping)}
    (hcolumns : List.Forall₂ P rows columns) (hfound : List.Forall₂ Q rows found) :
    ∃ lines : List TableLine, lines.map (·.row) = rows ∧ lines.map (·.column) = columns ∧
      lines.map (·.mapping) = found ∧
      ∀ line ∈ lines, P line.row line.column ∧ Q line.row line.mapping := by
  induction hcolumns generalizing found with
  | nil =>
    rw [List.forall₂_nil_left_iff] at hfound
    subst hfound
    exact ⟨[], rfl, rfl, rfl, by simp⟩
  | @cons row column rows columns hcolumn _ ih =>
    obtain ⟨mapping, found', hmapping, hfound', rfl⟩ := List.forall₂_cons_left_iff.mp hfound
    obtain ⟨lines, rfl, rfl, rfl, hlines⟩ := ih hfound'
    refine ⟨⟨row, column, mapping⟩ :: lines, rfl, rfl, rfl, fun line hline => ?_⟩
    rcases List.mem_cons.mp hline with rfl | hline
    · exact ⟨hcolumn, hmapping⟩
    · exact hlines line hline

variable {c : Compiler} {spec : Specification} {domain : String} {tier : Tier}
  {a : CompiledArtifacts}

/-- The type of a source column in the schema that the resolver has for its table. -/
def Compiler.sourceType? (c : Compiler) (domain : String) (tier : Tier)
    (table column : String) : Option DataType :=
  match (c.resolver domain tier table).answer with
  | .ok schema => (schema.column? column).map fun found => c.rules.mapType found.type
  | .error _ => none

/-- Whether the source column of a row, if it names one, has the same type in the first
source table that the rows of its target name as it has in the row's own source table.  A row
without a source table stands in with the type that it declares. -/
def Compiler.TypesMeet (c : Compiler) (domain : String) (tier : Tier)
    (rows : List MappingRow) (row : MappingRow) : Prop :=
  ∀ name, row.sourceColumn = some name →
    (rows.findSome? (·.sourceTable)).bind (c.sourceType? domain tier · name) =
      match row.sourceTable with
      | some own => c.sourceType? domain tier own name
      | none => some (c.rules.mapOptionalType row.dataType)

theorem sourceType?_of_job {schemas : SchemaCache} {tables : List String} {table name : String}
    {type : DataType}
    (hresolved : (resolveAll c.resolver domain tier tables).answer = .ok schemas)
    (htype : (Job.mk domain tier c.rules spec schemas).sourceType? table name = some type) :
    c.sourceType? domain tier table name = some type := by
  unfold Job.sourceType? at htype
  cases hschema : schemas.schema? table with
  | none => simp [hschema] at htype
  | some schema =>
    rw [hschema] at htype
    rw [Compiler.sourceType?, (schema?_eq_some hresolved hschema).2]
    exact htype

/-- One row: whether its two types are the same, once both are there. -/
theorem type_agrees_iff {schemas : SchemaCache} {tables : List String}
    {rows : List MappingRow} {source : Option SourceSchema} {table : String}
    {row : MappingRow} {column : Column} {mapping : ColumnMapping}
    (hresolved : (resolveAll c.resolver domain tier tables).answer = .ok schemas)
    (hsource : TargetSchema.sourceSchema ⟨domain, tier, c.rules, spec, schemas⟩ rows = .ok source)
    (hcolumn : TargetSchema.rowColumn c.rules source row = .ok column)
    (hmapping : MappingSet.rowMapping ⟨domain, tier, c.rules, spec, schemas⟩ table row =
      .ok mapping) :
    mapping.type.name = column.type ↔ c.TypesMeet domain tier rows row := by
  obtain ⟨shared, hcolumnType, hshared⟩ := TargetSchema.rowColumn_eq_ok hsource hcolumn
  have hown := (MappingSet.rowMapping_eq_ok hmapping).2
  rw [hcolumnType, DataType.name_inj, Compiler.TypesMeet]
  cases hname : row.sourceColumn with
  | none =>
    -- both types are the declared one
    have hdeclared : some mapping.type = some shared := by
      rw [hown, hshared]
      simp [hname]
    simp [Option.some.inj hdeclared]
  | some name =>
    rw [hname] at hshared hown
    have hfirst : (rows.findSome? (·.sourceTable)).bind (c.sourceType? domain tier · name) =
        some shared := by
      cases htable : rows.findSome? (·.sourceTable) with
      | none => simp [htable] at hshared
      | some first =>
        rw [htable] at hshared
        exact sourceType?_of_job hresolved hshared.symm
    cases htable : row.sourceTable with
    | none =>
      rw [htable] at hown
      simp [hfirst, ← hown, eq_comm]
    | some own =>
      rw [htable] at hown
      simp [hfirst, sourceType?_of_job hresolved hown.symm, eq_comm]

/-- The columns of a target table's schema and those of its mapping set are lined up by the
rows of the table; a row that is left out of the mapping set is skipped there.  The types of
a row agree if and only if the two ways to find them lead to the same type. -/
theorem column_type_agrees_iff (hcompile : (c.compile spec domain tier).answer = .ok a)
    {schema : TargetSchema} (hschema : schema ∈ a.targetSchemas) {set : MappingSet}
    (hset : set ∈ a.mappings) (htable : set.tableName = schema.tableName) :
    ∃ (lines : List TableLine) (auditColumns : List Column),
      lines.map (·.row) = spec.rowsOfTarget schema.tableName ∧
      c.audit tier = .ok auditColumns ∧
      schema.columns =
        TargetSchema.keyColumns tier ++ lines.map (·.column) ++ auditColumns ∧
      set.columns =
        (MappingSet.keyMapping? spec (spec.rowsOfTarget schema.tableName)).toList ++
          lines.filterMap (·.mapping) ∧
      ∀ line ∈ lines, line.mapping.isSome = line.row.isMapped ∧
        ∀ mapping, line.mapping = some mapping →
          (mapping.type.name = line.column.type ↔
            c.TypesMeet domain tier (spec.rowsOfTarget schema.tableName) line.row) := by
  obtain ⟨schemas, hvalidate, hyields⟩ := compile_eq_ok.mp hcompile
  have hresolved := resolved_of_validate hvalidate
  obtain ⟨table, -, hschema⟩ :=
    exists_of_forall₂_right (TargetSchema.ofJob_eq_ok.mp hyields.targetSchemas) hschema
  obtain ⟨source, columns, auditColumns, hsource, hcolumns, haudit, rfl⟩ :=
    TargetSchema.ofTable_eq_ok hschema
  obtain ⟨feeder, -, hsets⟩ := MappingSet.ofJob_eq_ok.mp hyields.mappings
  obtain ⟨table', -, hset⟩ := exists_of_forall₂_right hsets hset
  obtain ⟨found, hfound, rfl⟩ := MappingSet.ofTable_eq_ok hset
  obtain rfl : table' = table := htable
  -- both lists go with the rows of the table, so they go with each other
  obtain ⟨lines, hrows, rfl, rfl, hlines⟩ := exists_lines hcolumns hfound
  refine ⟨lines, auditColumns, hrows, haudit, rfl, ?_, fun line hline => ?_⟩
  · rw [List.filterMap_map]
    rfl
  · obtain ⟨hcolumn, hmapping⟩ := hlines line hline
    cases hfoundLine : line.mapping with
    | none =>
      rw [hfoundLine] at hmapping
      obtain ⟨e, hfails, hrecoverable⟩ := hmapping
      exact ⟨(MappingSet.rowMapping_eq_error hfails hrecoverable).symm, by simp⟩
    | some mapping =>
      rw [hfoundLine] at hmapping
      refine ⟨(MappingSet.rowMapping_eq_ok hmapping).1.symm, fun mapping' heq => ?_⟩
      cases heq
      exact type_agrees_iff hresolved hsource hcolumn hmapping

theorem column_type_agrees_iff_twoSources :
    ∃ (lines : List TableLine) (auditColumns : List Column),
      lines.map (·.row) = TwoSources.spec.rowsOfTarget "T" ∧
      TwoSources.compiler.audit .bronze = .ok auditColumns ∧
      TwoSources.schema.columns =
        TargetSchema.keyColumns .bronze ++ lines.map (·.column) ++ auditColumns ∧
      TwoSources.mappings.columns =
        (MappingSet.keyMapping? TwoSources.spec (TwoSources.spec.rowsOfTarget "T")).toList ++
          lines.filterMap (·.mapping) ∧
      ∀ line ∈ lines, line.mapping.isSome = line.row.isMapped ∧
        ∀ mapping, line.mapping = some mapping →
          (mapping.type.name = line.column.type ↔
            TwoSources.compiler.TypesMeet "sales" .bronze (TwoSources.spec.rowsOfTarget "T")
              line.row) := by
  have hschema : TwoSources.schema ∈ TwoSources.artifacts.targetSchemas := List.mem_singleton_self _
  have hset : TwoSources.mappings ∈ TwoSources.artifacts.mappings := List.mem_singleton_self _
  exact column_type_agrees_iff TwoSources.compile hschema hset rfl

/-- With two source tables the second column is an integer in the schema and a long integer
in the mapping set. -/
theorem column_types_differ :
    (TwoSources.compiler.compile TwoSources.spec "sales" .bronze).answer =
        .ok TwoSources.artifacts ∧
      TwoSources.artifacts.targetSchemas.map (·.columns) =
        [[⟨"X", DataType.integer.name⟩, ⟨"Y", DataType.integer.name⟩]] ∧
      TwoSources.artifacts.mappings.map (fun set => set.columns.map fun m => (m.name, m.type)) =
        [[("X", .integer), ("Y", .long)]] :=
  ⟨TwoSources.compile, rfl, rfl⟩

end Medallion
