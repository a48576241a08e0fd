import Medallion.Proofs.Compilation.Types
import Medallion.Proofs.Json.Values

/-!
# What a mapping set contains

The mapping sets of a job follow from its rows by four rules, one for each way in which a row
goes into the set of its table (`RowGives`):

* a row with a source table and a source column is mapped directly, whatever its
  transformation function is;
* of the other rows, one whose function is a JSON object is mapped to this function, with
  `string` for its `type`;
* one without a function, or with a blank one, has the empty source;
* one whose function is not a JSON object is left out.

A row fails if it has no target column, or if its source column is not known (`RowFails`).
`IsSetOf` puts the rows of a table together behind the merge key, and `TableFails` lists the
errors of a table.  The two cover everything that `MappingSet.ofJob` answers: it has the sets
of all target tables, or the error of the first row of the first table that fails
(`mapping_sets_iff`).

Nothing is assumed about where the specification comes from.  A job whose tier is not fed by
another one has no mapping sets, and is left out here.
-/

namespace Medallion

/-! ## Functions -/

namespace ColumnSource

/-- The members of an object in their order, with `string` for the value of `type`, which comes
last if it was not there. -/
def typedMembers (members : List (String × Json)) : List (String × Json) :=
  if "type" ∈ members.map (·.1) then
    members.map fun m => (m.1, if m.1 = "type" then .text "string" else m.2)
  else members ++ [("type", .text "string")]

theorem ofMembers_eq {members : List (String × Json)} (hdistinct : (members.map (·.1)).Nodup) :
    ofMembers members = .function (typedMembers members) := by
  unfold ofMembers typedMembers
  by_cases htype : "type" ∈ members.map (·.1)
  · rw [if_pos htype, Json.setMember_of_mem hdistinct htype]
    rfl
  · rw [if_neg htype, Json.setMember_of_not_mem htype]
    rfl

theorem parseFunction_of_object {text : String} {members : List (String × Json)}
    (hparse : Json.parse? text = some (.object members)) :
    parseFunction text = .ok (.function (typedMembers members)) := by
  have hdistinct : (Json.object members).Distinct := Json.distinct_of_parse? hparse
  unfold parseFunction
  rw [hparse]
  dsimp only
  rw [ofMembers_eq hdistinct.1]

theorem parseFunction_of_not_object {text : String}
    (hparse : ∀ members, Json.parse? text ≠ some (.object members)) :
    ∃ detail, parseFunction text = .error detail := by
  unfold parseFunction
  split
  · rename_i members hobject
    exact absurd hobject (hparse members)
  · exact ⟨_, rfl⟩
  · exact ⟨_, rfl⟩

end ColumnSource

namespace MappingSet

open ColumnSource (typedMembers)

variable {job : Job} {table : String} {row : MappingRow}

/-! ## Rows -/

/-- What a row gives to the mapping set of its table, if it does not fail. -/
inductive RowGives (job : Job) (row : MappingRow) : Option ColumnMapping → Prop
  | direct {name table column : String} {type : DataType}
      (htarget : row.targetColumn = some name) (htable : row.sourceTable = some table)
      (hcolumn : row.sourceColumn = some column)
      (htype : job.sourceType? table column = some type) :
      RowGives job row (some ⟨name, type, .direct column type⟩)
  | function {name text : String} {members : List (String × Json)}
      (htarget : row.targetColumn = some name)
      (hsource : row.sourceTable = none ∨ row.sourceColumn = none)
      (htext : row.transformation = some text) (hblank : Text.isBlankText text = false)
      (hparse : Json.parse? text = some (.object members)) :
      RowGives job row
        (some ⟨name, job.rules.mapOptionalType row.dataType, .function (typedMembers members)⟩)
  | empty {name : String} (htarget : row.targetColumn = some name)
      (hsource : row.sourceTable = none ∨ row.sourceColumn = none)
      (hblank : ∀ text, row.transformation = some text → Text.isBlankText text = true) :
      RowGives job row (some ⟨name, job.rules.mapOptionalType row.dataType, .empty⟩)
  /-- The row is left out. -/
  | nothing {name text : String} (htarget : row.targetColumn = some name)
      (hsource : row.sourceTable = none ∨ row.sourceColumn = none)
      (htext : row.transformation = some text) (hblank : Text.isBlankText text = false)
      (hparse : ∀ members, Json.parse? text ≠ some (.object members)) :
      RowGives job row none

/-- The errors of a row that end the generation. -/
inductive RowFails (job : Job) (table : String) (row : MappingRow) : MapError → Prop
  | noTargetColumn (htarget : row.targetColumn = none) :
      RowFails job table row (.mappingGeneration table (.noTargetColumn row.line))
  | unresolved {name source column : String} (htarget : row.targetColumn = some name)
      (htable : row.sourceTable = some source) (hcolumn : row.sourceColumn = some column)
      (habsent : job.sourceType? source column = none) :
      RowFails job table row (.mappingGeneration table (.unresolvedColumn source column))

theorem rowMapping_of_computed {name : String} (htarget : row.targetColumn = some name)
    (hsource : row.sourceTable = none ∨ row.sourceColumn = none) :
    rowMapping job table row = (computedSource table name row).map fun source =>
      ⟨name, job.rules.mapOptionalType row.dataType, source⟩ := by
  unfold rowMapping
  rw [htarget]
  dsimp only
  rcases hsource with hnone | hnone <;> rw [hnone]
  cases row.sourceTable <;> rfl

theorem computedSource_of_text {name text : String} (htext : row.transformation = some text)
    (hblank : Text.isBlankText text = false) :
    computedSource table name row =
      (ColumnSource.parseFunction text).mapError (.malformedTransformation table name) := by
  unfold computedSource
  rw [htext]
  dsimp only
  rw [hblank, if_neg Bool.false_ne_true]

theorem computedSource_of_blank {name : String}
    (hblank : ∀ text, row.transformation = some text → Text.isBlankText text = true) :
    computedSource table name row = .ok .empty := by
  unfold computedSource
  cases htext : row.transformation with
  | none => rfl
  | some text =>
    dsimp only
    rw [hblank text htext, if_pos rfl]

theorem rowResult_of_gives {given : Option ColumnMapping} (hgives : RowGives job row given) :
    rowResult job table row = .ok given := by
  cases hgives with
  | direct htarget htable hcolumn htype =>
    obtain ⟨found, hfound, rfl⟩ := Option.map_eq_some_iff.mp htype
    refine rowResult_of_ok ?_
    simp only [rowMapping, htarget, htable, hcolumn, hfound]
  | function htarget hsource htext hblank hparse =>
    refine rowResult_of_ok ?_
    rw [rowMapping_of_computed htarget hsource, computedSource_of_text htext hblank,
      ColumnSource.parseFunction_of_object hparse]
    rfl
  | empty htarget hsource hblank =>
    refine rowResult_of_ok ?_
    rw [rowMapping_of_computed htarget hsource, computedSource_of_blank hblank]
    rfl
  | @nothing name text htarget hsource htext hblank hparse =>
    obtain ⟨detail, hdetail⟩ := ColumnSource.parseFunction_of_not_object hparse
    have hrow : rowMapping job table row =
        .error (.malformedTransformation table name detail) := by
      rw [rowMapping_of_computed htarget hsource, computedSource_of_text htext hblank, hdetail]
      rfl
    exact rowResult_of_recoverable hrow rfl

theorem rowResult_of_fails {e : MapError} (hfails : RowFails job table row e) :
    rowResult job table row = .error e := by
  cases hfails with
  | noTargetColumn htarget =>
    refine rowResult_of_error ?_ rfl
    simp only [rowMapping, htarget]
  | unresolved htarget htable hcolumn habsent =>
    have hnone := Option.map_eq_none_iff.mp habsent
    refine rowResult_of_error ?_ rfl
    simp only [rowMapping, htarget, htable, hcolumn, hnone]

theorem gives_or_fails (job : Job) (table : String) (row : MappingRow) :
    (∃ given, RowGives job row given) ∨ ∃ e, RowFails job table row e := by
  cases htarget : row.targetColumn with
  | none => exact .inr ⟨_, .noTargetColumn htarget⟩
  | some name =>
    have hcomputed (hsource : row.sourceTable = none ∨ row.sourceColumn = none) :
        ∃ given, RowGives job row given := by
      by_cases hblank : ∀ text, row.transformation = some text → Text.isBlankText text = true
      · exact ⟨_, .empty htarget hsource hblank⟩
      · push Not at hblank
        obtain ⟨text, htext, hblank⟩ := hblank
        have hblank := eq_false_of_ne_true hblank
        by_cases hobject : ∃ members, Json.parse? text = some (.object members)
        · obtain ⟨members, hparse⟩ := hobject
          exact ⟨_, .function htarget hsource htext hblank hparse⟩
        · rw [not_exists] at hobject
          exact ⟨_, .nothing htarget hsource htext hblank hobject⟩
    cases htable : row.sourceTable with
    | none => exact .inl (hcomputed (.inl htable))
    | some source =>
      cases hcolumn : row.sourceColumn with
      | none => exact .inl (hcomputed (.inr hcolumn))
      | some column =>
        cases htype : job.sourceType? source column with
        | none => exact .inr ⟨_, .unresolved htarget htable hcolumn htype⟩
        | some type => exact .inl ⟨_, .direct htarget htable hcolumn htype⟩

theorem rowResult_eq_ok_iff {given : Option ColumnMapping} :
    rowResult job table row = .ok given ↔ RowGives job row given := by
  constructor
  · intro hresult
    rcases gives_or_fails job table row with ⟨given', hgives⟩ | ⟨e, hfails⟩
    · rw [rowResult_of_gives hgives] at hresult
      rwa [Except.ok.inj hresult] at hgives
    · rw [rowResult_of_fails hfails] at hresult
      cases hresult
  · exact rowResult_of_gives

theorem rowResult_eq_error_iff {e : MapError} :
    rowResult job table row = .error e ↔ RowFails job table row e := by
  constructor
  · intro hresult
    rcases gives_or_fails job table row with ⟨given, hgives⟩ | ⟨e', hfails⟩
    · rw [rowResult_of_gives hgives] at hresult
      cases hresult
    · rw [rowResult_of_fails hfails] at hresult
      rwa [Except.error.inj hresult] at hfails
  · exact rowResult_of_fails

/-! ## Tables -/

/-- The merge key in front of the mappings of some rows: there is one if the specification has
the header for business keys and the rows that are marked have names for it. -/
def keyPart (spec : Specification) (rows : List MappingRow) : List ColumnMapping :=
  let marked := rows.filter fun row => isAffirmative row.isBusinessKey
  let names := Name.cleanse (marked.map (·.targetColumn))
  if Header.isBusinessKey ∈ spec.headers ∧ names ≠ [] then
    [⟨"MergeKey", .string, .function
      [("function", .text "key_hash"), ("params", .object [("column_names", .texts names)]),
        ("type", .text "string")]⟩]
  else []

theorem keyMapping?_toList (spec : Specification) (rows : List MappingRow) :
    (keyMapping? spec rows).toList = keyPart spec rows := by
  have hpart : keyPart spec rows =
      if Header.isBusinessKey ∈ spec.headers ∧ keyColumns rows ≠ [] then
        [⟨mergeKey, .string, .keyHash (keyColumns rows)⟩] else [] := rfl
  have hhas : spec.hasHeader Header.isBusinessKey = true ↔
      Header.isBusinessKey ∈ spec.headers := List.contains_iff_mem
  rw [hpart]
  unfold keyMapping?
  by_cases hheader : Header.isBusinessKey ∈ spec.headers
  · rw [if_pos (hhas.mpr hheader)]
    cases keyColumns rows with
    | nil => simp
    | cons key keys =>
      rw [if_pos ⟨hheader, List.cons_ne_nil key keys⟩]
      rfl
  · rw [if_neg (mt hhas.mp hheader), if_neg fun h => hheader h.1]
    rfl

/-- The mapping set of a table. -/
structure IsSetOf (job : Job) (feeder : Tier) (table : String) (set : MappingSet) : Prop where
  domain : set.domain = job.domain
  tableName : set.tableName = table
  source : set.source = feeder
  target : set.target = job.tier
  /-- Behind the merge key comes what the rows give, in their order. -/
  columns : ∃ given, List.Forall₂ (RowGives job) (job.spec.rowsOfTarget table) given ∧
    set.columns = keyPart job.spec (job.spec.rowsOfTarget table) ++ given.filterMap id
  nonempty : set.columns ≠ []

/-- The errors of a table. -/
inductive TableFails (job : Job) (table : String) : MapError → Prop
  /-- A row fails, and none in front of it does. -/
  | row {before after : List MappingRow} {row : MappingRow} {e : MapError}
      (hrows : job.spec.rowsOfTarget table = before ++ row :: after)
      (hbefore : ∀ r ∈ before, ∃ given, RowGives job r given)
      (hfails : RowFails job table row e) : TableFails job table e
  /-- There is no merge key, and all rows are left out. -/
  | empty (hkey : keyPart job.spec (job.spec.rowsOfTarget table) = [])
      (hrows : ∀ r ∈ job.spec.rowsOfTarget table, RowGives job r none) :
      TableFails job table (.emptyMapping table)

variable {feeder : Tier}

/-- The rules for the rows of a table decide its mappings. -/
theorem rowMappings_eq_ok_iff {rows : List MappingRow} {columns : List ColumnMapping} :
    rowMappings job table rows = .ok columns ↔
      ∃ given, List.Forall₂ (RowGives job) rows given ∧ given.filterMap id = columns := by
  rw [rowMappings_eq, map_eq_ok]
  simp only [mapM_eq_ok, rowResult_eq_ok_iff]

theorem rowMappings_eq_error_iff {rows : List MappingRow} {e : MapError} :
    rowMappings job table rows = .error e ↔
      ∃ before row after, rows = before ++ row :: after ∧
        (∀ r ∈ before, ∃ given, RowGives job r given) ∧ RowFails job table row e := by
  rw [rowMappings_eq, map_eq_error]
  simp only [mapM_eq_error, rowResult_eq_ok_iff, rowResult_eq_error_iff]

/-- A table whose rows do not fail has a set, unless nothing goes into it. -/
theorem ofTable_of_rowMappings {columns : List ColumnMapping}
    (hcolumns : rowMappings job table (job.spec.rowsOfTarget table) = .ok columns) :
    ofTable job feeder table =
      if keyPart job.spec (job.spec.rowsOfTarget table) ++ columns = [] then
        .error (.emptyMapping table)
      else
        .ok ⟨job.domain, table, feeder, job.tier,
          keyPart job.spec (job.spec.rowsOfTarget table) ++ columns⟩ := by
  unfold ofTable
  dsimp only
  rw [hcolumns, ← keyMapping?_toList]
  dsimp only [bind, Except.bind]
  split
  · rename_i hnil
    rw [if_pos hnil]
  · rename_i hne
    rw [if_neg hne]

theorem ofTable_eq_ok_iff {set : MappingSet} :
    ofTable job feeder table = .ok set ↔ IsSetOf job feeder table set := by
  constructor
  · intro hset
    obtain ⟨columns, hcolumns, -⟩ := bind_eq_ok.mp hset
    obtain ⟨given, hgiven, rfl⟩ := rowMappings_eq_ok_iff.mp hcolumns
    rw [ofTable_of_rowMappings hcolumns] at hset
    split at hset
    · cases hset
    · rename_i hne
      cases hset
      exact ⟨rfl, rfl, rfl, rfl, ⟨given, hgiven, rfl⟩, hne⟩
  · intro hset
    obtain ⟨given, hgiven, hcolumns⟩ := hset.columns
    have hnonempty := hset.nonempty
    have hmappings : rowMappings job table (job.spec.rowsOfTarget table) =
        .ok (given.filterMap id) := rowMappings_eq_ok_iff.mpr ⟨given, hgiven, rfl⟩
    rw [hcolumns] at hnonempty
    rw [ofTable_of_rowMappings hmappings, if_neg hnonempty, ← hcolumns, ← hset.domain,
      ← hset.source, ← hset.target]
    exact congrArg (fun name => Except.ok { set with tableName := name }) hset.tableName.symm

theorem ofTable_eq_error_iff {e : MapError} :
    ofTable job feeder table = .error e ↔ TableFails job table e := by
  constructor
  · intro hfails
    rcases bind_eq_error.mp hfails with hrow | ⟨columns, hcolumns, -⟩
    · obtain ⟨before, row, after, hrows, hbefore, hrow⟩ := rowMappings_eq_error_iff.mp hrow
      exact .row hrows hbefore hrow
    · obtain ⟨given, hgiven, rfl⟩ := rowMappings_eq_ok_iff.mp hcolumns
      rw [ofTable_of_rowMappings hcolumns] at hfails
      split at hfails
      · rename_i hnil
        obtain ⟨hkey, hnone⟩ := List.append_eq_nil_iff.mp hnil
        cases hfails
        refine .empty hkey fun row hrow => ?_
        obtain ⟨found, hfound, hgives⟩ := exists_of_forall₂_left hgiven hrow
        obtain rfl : found = none := List.filterMap_eq_nil_iff.mp hnone found hfound
        exact hgives
      · cases hfails
  · intro hfails
    cases hfails with
    | row hrows hbefore hrow =>
      have herror := rowMappings_eq_error_iff.mpr ⟨_, _, _, hrows, hbefore, hrow⟩
      exact bind_eq_error.mpr (.inl herror)
    | empty hkey hrows =>
      have hgiven : List.Forall₂ (RowGives job) (job.spec.rowsOfTarget table)
          ((job.spec.rowsOfTarget table).map fun _ => none) := by
        rw [List.forall₂_map_right_iff, List.forall₂_same]
        exact hrows
      have hnone : ((job.spec.rowsOfTarget table).map fun _ =>
          (none : Option ColumnMapping)).filterMap id = [] := by
        rw [List.filterMap_eq_nil_iff]
        intro given hgiven
        obtain ⟨_, -, rfl⟩ := List.mem_map.mp hgiven
        rfl
      have hmappings : rowMappings job table (job.spec.rowsOfTarget table) = .ok [] :=
        rowMappings_eq_ok_iff.mpr ⟨_, hgiven, hnone⟩
      rw [ofTable_of_rowMappings hmappings, hkey, if_pos (List.append_nil [])]

/-! ## Jobs -/

/-- The error of the first table that fails. -/
def FirstFails (job : Job) (feeder : Tier) (e : MapError) : Prop :=
  ∃ before table after, job.spec.targetTables = before ++ table :: after ∧
    (∀ t ∈ before, ∃ set, IsSetOf job feeder t set) ∧ TableFails job table e

/-- What the mapping sets of a job are, and for which rows there are none. -/
theorem mapping_sets_iff (hfeeder : job.rules.feeder job.tier = some feeder) :
    (∀ sets, ofJob job = .ok sets ↔
        List.Forall₂ (IsSetOf job feeder) job.spec.targetTables sets) ∧
      ∀ e, ofJob job = .error e ↔ FirstFails job feeder e := by
  have hjob : ofJob job = job.spec.targetTables.mapM (ofTable job feeder) := by
    rw [ofJob, hfeeder]
  rw [hjob]
  constructor
  · intro sets
    simp only [mapM_eq_ok, ofTable_eq_ok_iff]
  · intro e
    simp only [mapM_eq_error, ofTable_eq_ok_iff, ofTable_eq_error_iff, FirstFails]

end MappingSet

/-! ## A table with rows of every kind -/

namespace MixedRows

def functionText : String := "\x7b\"type\": \"int\", \"function\": \"now\"\x7d"

/-- The first row is mapped directly although its function cannot be read, the function of the
third one is a list, and the last one names a source table alone. -/
def table : Table :=
  ⟨Header.all,
    [[.text "A", .text "id", .text "T", .text "X", .empty, .empty, .text " Yes", .empty, .empty,
        .text "not json"],
      [.empty, .empty, .text "T", .text "Y", .empty, .empty, .empty, .text "bigint", .empty,
        .text functionText],
      [.empty, .text "id", .text "T", .text "Z", .empty, .empty, .text "x", .empty, .empty,
        .text "[true]"],
      [.text "A", .empty, .text "T", .text "W"]]⟩

def job : Job :=
  ⟨"sales", .bronze, .default, .ofTable table, [("A", ⟨"sales", "A", [], [⟨"id", "int"⟩]⟩)]⟩

def rows : List MappingRow :=
  [⟨1, some "A", some "id", some "T", some "X", none, .empty, .empty, some "Yes", none,
      some "not json"⟩,
    ⟨2, none, none, some "T", some "Y", some "bigint", .empty, .empty, none, none,
      some functionText⟩,
    ⟨3, none, some "id", some "T", some "Z", none, .empty, .empty, some "x", none, some "[true]"⟩,
    ⟨4, some "A", none, some "T", some "W", none, .empty, .empty, none, none, none⟩]

/-- The third row is left out, and marked all the same. -/
def given : List (Option ColumnMapping) :=
  [some ⟨"X", .integer, .direct "id" .integer⟩,
    some ⟨"Y", .long, .function [("type", .text "string"), ("function", .text "now")]⟩, none,
    some ⟨"W", .string, .empty⟩]

def key : ColumnMapping := ⟨"MergeKey", .string, .keyHash ["X", "Z"]⟩

def set : MappingSet := ⟨"sales", "T", .landingZone, .bronze, key :: given.filterMap id⟩

theorem rows_eq : job.spec.rowsOfTarget "T" = rows := by
  with_unfolding_all rfl

theorem keyPart_eq : MappingSet.keyPart job.spec rows = [key] := by
  with_unfolding_all rfl

theorem rowGives : List.Forall₂ (MappingSet.RowGives job) rows given := by
  have hfunction : Json.parse? functionText =
      some (.object [("type", .text "int"), ("function", .text "now")]) := by cbv
  have hlist : ∀ members, Json.parse? "[true]" ≠ some (.object members) := by
    have harray : Json.parse? "[true]" = some (.array [.bool true]) := by cbv
    simp [harray]
  refine .cons ?_ (.cons ?_ (.cons ?_ (.cons ?_ .nil)))
  · exact .direct rfl rfl rfl rfl
  · exact .function rfl (.inl rfl) rfl (by decide) hfunction
  · exact .nothing rfl (.inl rfl) rfl (by decide) hlist
  · exact .empty rfl (.inr rfl) (by simp)

theorem isSetOf : MappingSet.IsSetOf job .landingZone "T" set := by
  refine ⟨rfl, rfl, rfl, rfl, ⟨given, ?_, ?_⟩, by simp [set]⟩
  · rw [rows_eq]
    exact rowGives
  · rw [rows_eq, keyPart_eq]
    rfl

end MixedRows

theorem mapping_sets_iff_mixedRows :
    MixedRows.job.rules.feeder MixedRows.job.tier = some .landingZone ∧
      MappingSet.IsSetOf MixedRows.job .landingZone "T" MixedRows.set ∧
      MappingSet.ofJob MixedRows.job = .ok [MixedRows.set] := by
  have hfeeder : MixedRows.job.rules.feeder MixedRows.job.tier = some .landingZone := rfl
  have htables : MixedRows.job.spec.targetTables = ["T"] := by with_unfolding_all rfl
  refine ⟨hfeeder, MixedRows.isSetOf, ?_⟩
  rw [(MappingSet.mapping_sets_iff hfeeder).1, htables]
  exact .cons MixedRows.isSetOf .nil

end Medallion
