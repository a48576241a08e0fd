import Medallion.Proofs.Compilation.Validated

/-!
# The rows of listed tables

The lists of target tables and of source tables are made by cleansing the names of the rows once
more, and the rows of a table are found by comparing names as they are.  The two fit together:
cleansing drops some cleansed names and changes none of the others, so each listed table is
literally the table of some row (`dividesRows_cleanse`).

So no schema is generated from no rows, and the error that says so does not come up
(`listed_tables_have_rows`).  Its wording is not that of another error either, but for a problem
that a caller states in words of its own (`SchemaProblem.eq_of_message`).
-/

namespace Medallion

/-! ## Rows by table -/

section Division

variable {rows : List MappingRow} {name : MappingRow → Option String}

/-- Whether tables divide rows among them: each table has a row, no row belongs to two tables,
and a row that names a table belongs to one, unless the name is a marker of an empty number. -/
structure DividesRows (name : MappingRow → Option String) (rows : List MappingRow)
    (tables : List String) (rowsOf : String → List MappingRow) : Prop where
  hasRow : ∀ table ∈ tables, ∃ row, row ∈ rowsOf table
  apart : tables.Pairwise fun a b => (rowsOf a).Disjoint (rowsOf b)
  covers : ∀ row ∈ rows, ∀ table ∈ name row, table ∉ Name.nullMarkers →
    ∃ listed ∈ tables, row ∈ rowsOf listed

/-- Cleansed names divide the rows that bear them, after they have been cleansed again. -/
theorem dividesRows_cleanse (hnames : ∀ row ∈ rows, ∀ table ∈ name row, Name.IsCleansed table) :
    DividesRows name rows (Name.cleanse (rows.map name))
      fun table => rows.filter fun row => name row == some table := by
  constructor
  · intro table htable
    obtain ⟨⟨row, hrow, hname⟩, -⟩ := (Name.mem_cleanse_map hnames).mp htable
    exact ⟨row, List.mem_filter.mpr ⟨hrow, by simp [hname]⟩⟩
  · apply (Name.nodup_cleanse _).imp
    intro a b hne row ha hb
    apply hne
    have hnameA : name row = some a := by simpa using (List.mem_filter.mp ha).2
    have hnameB : name row = some b := by simpa using (List.mem_filter.mp hb).2
    exact Option.some.inj (hnameA.symm.trans hnameB)
  · intro row hrow table htable hmarker
    have hname : name row = some table := htable
    refine ⟨table, (Name.mem_cleanse_map hnames).mpr ⟨⟨row, hrow, hname⟩, hmarker⟩, ?_⟩
    exact List.mem_filter.mpr ⟨hrow, by simp [hname]⟩

theorem Specification.dividesRows_targetTables (t : Table) :
    DividesRows (·.targetTable) (ofTable t).rows (ofTable t).targetTables
      (ofTable t).rowsOfTarget :=
  dividesRows_cleanse fun _ hrow => (isCleansed_of_mem hrow).targetTable

theorem Specification.dividesRows_sourceTables (t : Table) :
    DividesRows (·.sourceTable) (ofTable t).rows (ofTable t).sourceTables
      (ofTable t).rowsOfSource :=
  dividesRows_cleanse fun _ hrow => (isCleansed_of_mem hrow).sourceTable

end Division

/-! ## The error for a table without rows -/

/-- The wording for a table without rows is used for nothing else, but for a stated problem. -/
theorem SchemaProblem.eq_of_message {p : SchemaProblem} (h : p.message = "no mapping rows") :
    p = .noRows ∨ p = .stated "no mapping rows" := by
  cases p with
  | noRows => exact .inl rfl
  | stated text => exact .inr (congrArg SchemaProblem.stated h)
  | unresolvedTable | noTargetColumn | unknownColumn | columnWithoutTable | audit =>
    dsimp only [message, AuditProblem.report] at h
    simp [← String.toList_inj] at h

/-- A schema that cannot be generated from some rows has a reason with another wording. -/
theorem TargetSchema.message_of_ofTable {job : Job} {audit : AuditProvider} {table : String}
    {e : MapError} (hrows : job.spec.rowsOfTarget table ≠ [])
    (hfails : ofTable job audit table = .error e) :
    ∃ p, e = .schemaGeneration table p ∧ p.message ≠ "no mapping rows" := by
  obtain ⟨p, rfl, hreason⟩ := ofTable_eq_error hfails
  refine ⟨p, rfl, ?_⟩
  intro hmessage
  rcases hreason with hempty | hsource | ⟨source, -, row, -, hcolumn⟩ | ⟨problem, -, rfl⟩
  · exact hrows hempty
  · obtain ⟨first, -, -, rfl⟩ := sourceSchema_eq_error hsource
    simpa using SchemaProblem.eq_of_message hmessage
  · rcases rowColumn_eq_error hcolumn with ⟨-, rfl⟩ |
      ⟨column, -, ⟨schema, -, -, rfl⟩ | ⟨-, rfl⟩⟩
    · simpa using SchemaProblem.eq_of_message hmessage
    · simpa using SchemaProblem.eq_of_message hmessage
    · simpa using SchemaProblem.eq_of_message hmessage
  · simpa using SchemaProblem.eq_of_message hmessage

/-- In a specification that is read from a table, the listed target tables divide the rows, and
so do the listed source tables.  So no schema fails for want of rows. -/
theorem listed_tables_have_rows {job : Job} {t : Table} (hspec : job.spec = .ofTable t)
    (audit : AuditProvider) :
    DividesRows (·.targetTable) job.spec.rows job.spec.targetTables job.spec.rowsOfTarget ∧
      DividesRows (·.sourceTable) job.spec.rows job.spec.sourceTables job.spec.rowsOfSource ∧
      ∀ e, TargetSchema.ofJob job audit = .error e →
        ∃ table ∈ job.spec.targetTables, ∃ p,
          e = .schemaGeneration table p ∧ p.message ≠ "no mapping rows" := by
  have htargets : DividesRows (·.targetTable) job.spec.rows job.spec.targetTables
      job.spec.rowsOfTarget := by
    rw [hspec]
    exact Specification.dividesRows_targetTables t
  refine ⟨htargets, ?_, ?_⟩
  · rw [hspec]
    exact Specification.dividesRows_sourceTables t
  · intro e hfails
    obtain ⟨table, htable, hfails⟩ := exists_of_mapM_eq_error hfails
    obtain ⟨row, hrow⟩ := htargets.hasRow table htable
    exact ⟨table, htable, TargetSchema.message_of_ofTable (List.ne_nil_of_mem hrow) hfails⟩

/-! ## A job without a schema for its source table -/

namespace UnresolvedSource

/-- The first two rows name one table, and the third one is written as a zero-width space and a
marker. -/
def table : Table :=
  ⟨Header.all,
    [[.text "A", .text "id", .text "T", .text "X"],
      [.text "A", .text "id", .text " T\u00A0", .text "Y"],
      [.text "A", .text "id", .text "\u200BNaN", .text "Z"]]⟩

def job : Job := ⟨"sales", .bronze, .default, .ofTable table, []⟩

def audit : AuditProvider := fun _ => .ok []

end UnresolvedSource

theorem listed_tables_have_rows_unresolvedSource :
    UnresolvedSource.job.spec = .ofTable UnresolvedSource.table ∧
      UnresolvedSource.job.spec.targetTables = ["T"] ∧
      (∃ row, row ∈ UnresolvedSource.job.spec.rowsOfTarget "T") ∧
      TargetSchema.ofJob UnresolvedSource.job UnresolvedSource.audit =
        .error (.schemaGeneration "T" (.unresolvedTable "A")) ∧
      ∃ table ∈ ["T"], ∃ p,
        MapError.schemaGeneration "T" (.unresolvedTable "A") = .schemaGeneration table p ∧
          p.message ≠ "no mapping rows" := by
  have htables : UnresolvedSource.job.spec.targetTables = ["T"] := by with_unfolding_all rfl
  have hfails : TargetSchema.ofJob UnresolvedSource.job UnresolvedSource.audit =
      .error (.schemaGeneration "T" (.unresolvedTable "A")) := by
    with_unfolding_all rfl
  obtain ⟨htargets, -, hreasons⟩ := listed_tables_have_rows
    (show UnresolvedSource.job.spec = .ofTable UnresolvedSource.table from rfl)
    UnresolvedSource.audit
  have hreason := hreasons _ hfails
  have hrow := htargets.hasRow "T"
  rw [htables] at hreason hrow
  exact ⟨rfl, htables, hrow List.mem_cons_self, hfails, hreason⟩

end Medallion
