import Medallion.Proofs.Compilation.ColumnNames
import Medallion.Proofs.Compilation.Types

/-!
# The columns behind a merge key

The merge key of a mapping set hashes the columns that are marked as business keys.  The list of
these columns is made from all rows of the table, before the rows with a function that cannot be
read are left out.  So the key can name a column that the set does not have, and the set can be
left with nothing but its key.

* `MappingSet.exists_mapping_iff` and `MappingSet.mappings_eq_nil_iff`: the columns behind the
  key are those of the rows that are mapped.
* `hashed_columns_mapped_iff`: a column that the key hashes is a column of the set if and only if
  a row that is mapped has it for its target, and the key stands alone if and only if no row is
  mapped.  If every marked row is mapped, the key hashes columns of its set only.

The last part is about specifications that are read from a table.  In others the key has the
cleansed name of a column, and its mapping has the name as it is.
-/

namespace Medallion

namespace MappingSet

variable {job : Job} {table name : String} {rows : List MappingRow}
  {found : List (Option ColumnMapping)}

/-! ## Mappings of rows -/

theorem targetColumn_of_rowMapping {row : MappingRow} {mapping : ColumnMapping}
    (hmapping : rowMapping job table row = .ok mapping) :
    row.targetColumn = some mapping.name := by
  have hcase := rowCase job table row
  rw [hmapping] at hcase
  cases hcase with
  | direct htarget _ _ _ => exact htarget
  | computed htarget _ hresult =>
    obtain ⟨source, -, rfl⟩ := map_eq_ok.mp hresult
    exact htarget

/-- The columns of a mapping set are the target columns of the rows that are mapped. -/
theorem exists_mapping_iff (hfound : List.Forall₂ (MapsTo job table) rows found) :
    (∃ mapping ∈ found.filterMap id, mapping.name = name) ↔
      ∃ row ∈ rows, row.isMapped = true ∧ row.targetColumn = some name := by
  constructor
  · rintro ⟨mapping, hmem, rfl⟩
    obtain ⟨_, hmem, rfl⟩ := List.mem_filterMap.mp hmem
    obtain ⟨row, hrow, hmapping⟩ := exists_of_forall₂_right hfound hmem
    exact ⟨row, hrow, (rowMapping_eq_ok hmapping).1, targetColumn_of_rowMapping hmapping⟩
  · rintro ⟨row, hrow, hmapped, htarget⟩
    obtain ⟨result, hmem, hresult⟩ := exists_of_forall₂_left hfound hrow
    cases result with
    | none =>
      obtain ⟨e, hfails, hrecoverable⟩ := hresult
      rw [rowMapping_eq_error hfails hrecoverable] at hmapped
      cases hmapped
    | some mapping =>
      rw [targetColumn_of_rowMapping hresult] at htarget
      exact ⟨mapping, List.mem_filterMap.mpr ⟨_, hmem, rfl⟩, Option.some.inj htarget⟩

theorem mappings_eq_nil_iff (hfound : List.Forall₂ (MapsTo job table) rows found) :
    found.filterMap id = [] ↔ ∀ row ∈ rows, row.isMapped = false := by
  rw [List.filterMap_eq_nil_iff]
  constructor
  · intro hnone row hrow
    obtain ⟨result, hmem, hresult⟩ := exists_of_forall₂_left hfound hrow
    obtain rfl : result = none := hnone result hmem
    obtain ⟨e, hfails, hrecoverable⟩ := hresult
    exact rowMapping_eq_error hfails hrecoverable
  · intro hskipped result hmem
    obtain ⟨row, hrow, hresult⟩ := exists_of_forall₂_right hfound hmem
    cases result with
    | none => rfl
    | some mapping =>
      have hmapped := (rowMapping_eq_ok hresult).1
      rw [hskipped row hrow] at hmapped
      cases hmapped

/-! ## Business keys -/

theorem keyColumns_ne_nil {spec : Specification} {key : ColumnMapping}
    (hkey : keyMapping? spec rows = some key) : keyColumns rows ≠ [] := by
  intro hnil
  unfold keyMapping? at hkey
  split at hkey
  · simp [hnil] at hkey
  · cases hkey

/-- Every business key is the target column of a row that is marked. -/
theorem exists_marked_of_keyColumns (hrows : ∀ row ∈ rows, row.IsCleansed)
    (hname : name ∈ keyColumns rows) :
    ∃ row ∈ rows, isAffirmative row.isBusinessKey = true ∧ row.targetColumn = some name := by
  have hcleansed : ∀ row ∈ rows.filter (fun r => isAffirmative r.isBusinessKey),
      ∀ column ∈ row.targetColumn, Name.IsCleansed column :=
    fun row hrow => (hrows row (List.mem_filter.mp hrow).1).targetColumn
  obtain ⟨⟨row, hrow, htarget⟩, -⟩ := (Name.mem_cleanse_map hcleansed).mp hname
  obtain ⟨hmem, haffirmative⟩ := List.mem_filter.mp hrow
  exact ⟨row, hmem, haffirmative, htarget⟩

/-- If every marked row is mapped, the key stands in front of the columns that it hashes. -/
theorem hashed_of_marked_mapped (hrows : ∀ row ∈ rows, row.IsCleansed)
    (hfound : List.Forall₂ (MapsTo job table) rows found)
    (hmapped : ∀ row ∈ rows, isAffirmative row.isBusinessKey = true → row.isMapped = true)
    (hname : name ∈ keyColumns rows) :
    ∃ mapping ∈ found.filterMap id, mapping.name = name := by
  obtain ⟨row, hrow, hmarked, htarget⟩ := exists_marked_of_keyColumns hrows hname
  exact (exists_mapping_iff hfound).mpr ⟨row, hrow, hmapped row hrow hmarked, htarget⟩

end MappingSet

/-- In a mapping set that begins with the merge key, a column that the key hashes is another
column of the set if and only if it is the target of a row that is mapped, and the key stands
alone if and only if no row is mapped.  Neither goes wrong if every marked row is mapped. -/
theorem hashed_columns_mapped_iff {job : Job} {sets : List MappingSet} {set : MappingSet}
    {key : ColumnMapping} (hsets : MappingSet.ofJob job = .ok sets) (hset : set ∈ sets)
    (hkey : MappingSet.keyMapping? job.spec (job.spec.rowsOfTarget set.tableName) = some key) :
    ∃ names columns,
      set.columns = key :: columns ∧ key.name = mergeKey ∧
        key.source.hashedColumns? = some names ∧
      (∀ name ∈ names, (∃ mapping ∈ columns, mapping.name = name) ↔
        ∃ row ∈ job.spec.rowsOfTarget set.tableName,
          row.isMapped = true ∧ row.targetColumn = some name) ∧
      (columns = [] ↔ ∀ row ∈ job.spec.rowsOfTarget set.tableName, row.isMapped = false) ∧
      ((∃ t, job.spec = .ofTable t) →
        (∀ row ∈ job.spec.rowsOfTarget set.tableName,
          MappingSet.isAffirmative row.isBusinessKey = true → row.isMapped = true) →
        columns ≠ [] ∧ ∀ name ∈ names, ∃ mapping ∈ columns, mapping.name = name) := by
  obtain ⟨feeder, -, hpairs⟩ := MappingSet.ofJob_eq_ok.mp hsets
  obtain ⟨table, -, hof⟩ := exists_of_forall₂_right hpairs hset
  obtain ⟨found, hfound, rfl⟩ := MappingSet.ofTable_eq_ok hof
  have hnonempty := MappingSet.keyColumns_ne_nil hkey
  refine ⟨MappingSet.keyColumns (job.spec.rowsOfTarget table), found.filterMap id, ?_, ?_, ?_,
    fun name _ => MappingSet.exists_mapping_iff hfound,
    MappingSet.mappings_eq_nil_iff hfound, ?_⟩
  · rw [hkey]
    rfl
  · rw [MappingSet.keyMapping?_eq_some hkey]
  · rw [MappingSet.keyMapping?_eq_some hkey]
    exact ColumnSource.hashedColumns?_keyHash _
  · rintro ⟨t, hspec⟩ hmapped
    have hrows : ∀ row ∈ job.spec.rowsOfTarget table, row.IsCleansed :=
      fun row => Specification.isCleansed_of_mem_rowsOfTarget hspec
    have hhashed (name : String)
        (hname : name ∈ MappingSet.keyColumns (job.spec.rowsOfTarget table)) :
        ∃ mapping ∈ found.filterMap id, mapping.name = name :=
      MappingSet.hashed_of_marked_mapped hrows hfound hmapped hname
    refine ⟨fun hnil => ?_, hhashed⟩
    -- a key hashes a column at least, so there is a column behind it
    obtain ⟨name, hname⟩ := List.exists_mem_of_ne_nil _ hnonempty
    obtain ⟨mapping, hmem, -⟩ := hhashed name hname
    rw [hnil] at hmem
    cases hmem

/-! ## A marked row that is left out -/

namespace UnmappedKey

/-- Both rows of `T` are marked, and the function of the second one cannot be read.  The only
row of `U` is like that one. -/
def table : Table :=
  ⟨Header.all,
    [[.text "A", .text "id", .text "T", .text "X", .empty, .empty, .text "y"],
      [.empty, .empty, .text "T", .text "Y", .empty, .empty, .text "y", .empty, .empty,
        .text "not json"],
      [.empty, .empty, .text "U", .text "X", .empty, .empty, .text "y", .empty, .empty,
        .text "not json"]]⟩

def job : Job :=
  ⟨"sales", .bronze, .default, .ofTable table, [("A", ⟨"sales", "A", [], [⟨"id", "int"⟩]⟩)]⟩

def key : ColumnMapping := ⟨"MergeKey", .string, .keyHash ["X", "Y"]⟩

def mappings : MappingSet :=
  ⟨"sales", "T", .landingZone, .bronze, [key, ⟨"X", .integer, .direct "id" .integer⟩]⟩

/-- The key of `U` stands alone. -/
def lonely : MappingSet :=
  ⟨"sales", "U", .landingZone, .bronze, [⟨"MergeKey", .string, .keyHash ["X"]⟩]⟩

theorem ofJob : MappingSet.ofJob job = .ok [mappings, lonely] := by
  with_unfolding_all rfl

theorem keyMapping? :
    MappingSet.keyMapping? job.spec (job.spec.rowsOfTarget "T") = some key := by
  with_unfolding_all rfl

end UnmappedKey

theorem hashed_columns_mapped_iff_unmappedKey :
    ∃ names columns,
      UnmappedKey.mappings.columns = UnmappedKey.key :: columns ∧
        UnmappedKey.key.name = mergeKey ∧ UnmappedKey.key.source.hashedColumns? = some names ∧
      (∀ name ∈ names, (∃ mapping ∈ columns, mapping.name = name) ↔
        ∃ row ∈ UnmappedKey.job.spec.rowsOfTarget "T",
          row.isMapped = true ∧ row.targetColumn = some name) ∧
      (columns = [] ↔ ∀ row ∈ UnmappedKey.job.spec.rowsOfTarget "T", row.isMapped = false) ∧
      ((∃ t, UnmappedKey.job.spec = .ofTable t) →
        (∀ row ∈ UnmappedKey.job.spec.rowsOfTarget "T",
          MappingSet.isAffirmative row.isBusinessKey = true → row.isMapped = true) →
        columns ≠ [] ∧ ∀ name ∈ names, ∃ mapping ∈ columns, mapping.name = name) :=
  hashed_columns_mapped_iff UnmappedKey.ofJob List.mem_cons_self UnmappedKey.keyMapping?

/-- The key of the first table hashes a column that is not in the set, and the second set has no
column but its key. -/
theorem key_hashes_unmapped_column :
    MappingSet.ofJob UnmappedKey.job = .ok [UnmappedKey.mappings, UnmappedKey.lonely] ∧
      UnmappedKey.key.source.hashedColumns? = some ["X", "Y"] ∧
      UnmappedKey.mappings.columns.map (·.name) = ["MergeKey", "X"] ∧
      UnmappedKey.lonely.columns.map (·.name) = ["MergeKey"] :=
  ⟨UnmappedKey.ofJob, ColumnSource.hashedColumns?_keyHash _, rfl, rfl⟩

end Medallion
