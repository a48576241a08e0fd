import Medallion.Proofs.Compilation.Feeding
import Medallion.Proofs.Compilation.Types

/-!
# Types along the tiers

A run types a column by the rules, and its schema artifact has the name of the type.  The tier
above reads this name as the type of a source column and applies the rules to it again.  The
names of the data types are known to the default rules, and each one stands for its own type
(`Rules.mapType_name`), so a column that is handed from tier to tier has one type all along.

Runs that succeed follow one another on a store (`Succeeded`), each for a request of its own:

* `Succeeded.changes`: together they change the file tree by what they write, and make
  directories;
* `Leaves`: what is written last at the place of a schema is the schema of one of the runs.  The
  file is then there as this run has made it (`Succeeded.holds_of_leaves`).  With plain names
  the last run that makes a schema for a table leaves it (`Succeeded.leaves_of_last`);
* `types_do_not_drift`: what the next tier maps from a column that such a schema has for a row, or
  from its merge key, is of the type that the schema has for the column.

The audit columns are left out: their types come from the settings as they are.
-/

namespace Medallion

/-! ## Names of types -/

/-- The name of a data type stands for this type. -/
theorem Rules.mapType_name (type : DataType) : Rules.default.mapType type.name = type := by
  cases type <;> decide +kernel

/-- The columns of a schema that are not audit columns have names of data types for types. -/
theorem TargetSchema.exists_type_of_own {job : Job} {audit : AuditProvider} {table : String}
    {schema : TargetSchema} {own auditColumns : List Column} {column : Column}
    (hschema : ofTable job audit table = .ok schema) (haudit : audit job.tier = .ok auditColumns)
    (hcolumns : schema.columns = own ++ auditColumns) (hcolumn : column ∈ own) :
    ∃ type : DataType, column.type = type.name := by
  obtain ⟨source, columns, auditColumns', hsource, hrows, haudit', rfl⟩ := ofTable_eq_ok hschema
  obtain rfl : auditColumns' = auditColumns := Except.ok.inj (haudit'.symm.trans haudit)
  obtain rfl : keyColumns job.tier ++ columns = own := List.append_cancel_right hcolumns
  rcases List.mem_append.mp hcolumn with hkey | hmem
  · unfold keyColumns at hkey
    split at hkey
    · rw [List.mem_singleton.mp hkey]
      exact ⟨.string, rfl⟩
    · cases hkey
  · obtain ⟨row, -, hrow⟩ := exists_of_forall₂_right hrows hmem
    obtain ⟨type, htype, -⟩ := rowColumn_eq_ok hsource hrow
    exact ⟨type, htype⟩

/-! ## Runs that succeed -/

/-- What a run under the default rules is asked to do, as far as its store does not decide it. -/
structure Request where
  settings : SourceSettings
  secrets : SecretStore
  introspector : Introspector
  output : OutputSettings
  audit : AuditProvider
  spec : Specification
  domain : String
  tier : Tier

namespace Request

variable (request : Request) (store : Store) (tree : FileTree)

/-- Where the request gets the schemas of its source tables from. -/
def source : SchemaSource :=
  ⟨.default, request.settings, store, request.secrets, request.introspector⟩

def compiler : Compiler := (request.source store).compiler request.output request.audit tree

def compiled : Except MapError CompiledArtifacts :=
  ((request.compiler store tree).compile request.spec request.domain request.tier).answer

def run : Saved (List String) :=
  (request.compiler store tree).run store request.spec request.domain request.tier tree

/-- Whether the request has plain names. -/
structure Plain : Prop where
  spec : request.spec.PlainTargets
  domain : Path.IsPlain request.domain

end Request

/-- Some requests are run one after the other on a store and succeed; each one makes some
artifacts. -/
inductive Succeeded (store : Store) :
    FileTree → List (Request × CompiledArtifacts) → FileTree → Prop where
  | nil {tree : FileTree} : Succeeded store tree [] tree
  | cons {tree mid tree' : FileTree} {request : Request} {a : CompiledArtifacts}
      {names : List String} {log : List (Request × CompiledArtifacts)}
      (hcompiled : request.compiled store tree = .ok a)
      (hrun : request.run store tree = (.ok names, mid)) (hrest : Succeeded store mid log tree') :
      Succeeded store tree ((request, a) :: log) tree'

/-- The writes of some runs, one after the other. -/
def writesOfLog (store : Store) (log : List (Request × CompiledArtifacts)) :
    List (Path × Content) :=
  log.flatMap fun entry => store.writes entry.1.domain entry.1.tier entry.2.entries

/-- Whether a schema that one of some runs has made is what they leave in its place: nothing else
is written over it. -/
structure Leaves (store : Store) (tree : FileTree) (log : List (Request × CompiledArtifacts))
    (request : Request) (schema : TargetSchema) : Prop where
  made : ∃ a, (request, a) ∈ log ∧ schema ∈ a.targetSchemas
  last : tree.lastWrite (writesOfLog store log)
      (tree.place (store.schemaPath request.domain request.tier schema.tableName)) =
    some (Store.content schema.toJson)

namespace Succeeded

variable {store : Store} {tree tree' : FileTree} {log : List (Request × CompiledArtifacts)}
  {request : Request} {a : CompiledArtifacts} {schema : TargetSchema}

/-- Runs that succeed change the file tree by what they write. -/
theorem changes (hlog : Succeeded store tree log tree') :
    FileTree.Changes (fun _ => True) (writesOfLog store log) tree tree' := by
  induction hlog with
  | nil => exact .refl
  | cons hcompiled hrun _ ih =>
    rw [Request.run, run_of_compile hcompiled] at hrun
    have hfirst := CompiledArtifacts.changes_of_saveAll hrun
    exact (hfirst.mono fun _ _ => trivial).trans ih

/-- The artifacts of every run come from a job of its request. -/
theorem exists_yields (hlog : Succeeded store tree log tree') (hentry : (request, a) ∈ log) :
    ∃ schemas, (Job.mk request.domain request.tier .default request.spec schemas).Yields
      request.output request.audit a := by
  induction hlog with
  | nil => cases hentry
  | cons hcompiled _ _ ih =>
    rcases List.mem_cons.mp hentry with hfirst | hrest
    · cases hfirst
      obtain ⟨schemas, -, hyields⟩ := compile_eq_ok.mp hcompiled
      exact ⟨schemas, hyields⟩
    · exact ih hrest

theorem schema_mem_files (hlog : Succeeded store tree log tree') (hentry : (request, a) ∈ log)
    (hschema : schema ∈ a.targetSchemas) :
    (schemaFileName request.tier schema.tableName, schema.toJson) ∈ a.entries := by
  obtain ⟨schemas, hyields⟩ := hlog.exists_yields hentry
  have hfile := schema_mem_entries hschema
  rwa [hyields.tier] at hfile

theorem isPlain_file (hlog : Succeeded store tree log tree') (hentry : (request, a) ∈ log)
    (hplain : request.Plain) {file : String × Json} (hfile : file ∈ a.entries) :
    Path.IsPlain file.1 := by
  obtain ⟨schemas, hyields⟩ := hlog.exists_yields hentry
  obtain ⟨feeder, hfeeder, -⟩ := Linkage.ofJob_eq_ok.mp hyields.linkages
  exact hyields.isPlain_entry hfeeder hplain.spec hplain.domain hfile

/-- A schema that the runs leave is there after them. -/
theorem holds_of_leaves (hlog : Succeeded store tree log tree')
    (hleaves : Leaves store tree log request schema) :
    store.Holds tree' request.domain request.tier schema.tableName schema := by
  obtain ⟨a, hentry, hschema⟩ := hleaves.made
  have hfile := hlog.schema_mem_files hentry hschema
  have hw : (store.schemaPath request.domain request.tier schema.tableName,
      Store.content schema.toJson) ∈ writesOfLog store log :=
    List.mem_flatMap.mpr ⟨_, hentry, List.mem_map.mpr ⟨_, hfile, rfl⟩⟩
  refine FileTree.read_of_fileAt (hlog.changes.reached _ hw) ?_
  rw [hlog.changes.file, hleaves.last, Option.some_or]

/-- With plain names, a run writes to the place of a schema only if it makes that schema. -/
theorem schema_of_place (hlog : Succeeded store tree log tree') (hentry : (request, a) ∈ log)
    (hplain : request.Plain) {domain table : String} {tier : Tier} {file : String × Json}
    (hdomain : Path.IsPlain domain) (hname : Path.IsPlain (schemaFileName tier table))
    (hfile : file ∈ a.entries)
    (hplace : tree.place (store.artifactPath request.domain request.tier file.1) =
      tree.place (store.schemaPath domain tier table)) :
    request.domain = domain ∧ request.tier = tier ∧
      ∃ schema ∈ a.targetSchemas, schema.tableName = table ∧ file.2 = schema.toJson := by
  obtain ⟨schemas, hyields⟩ := hlog.exists_yields hentry
  obtain ⟨feeder, hfeeder, -⟩ := Linkage.ofJob_eq_ok.mp hyields.linkages
  have hown := hlog.isPlain_file hentry hplain hfile
  obtain ⟨rfl, rfl, hsame⟩ :=
    (Store.place_artifactPath_inj hplain.domain hown hdomain hname).mp hplace
  exact ⟨rfl, rfl, hyields.schema_of_entry hfeeder (Rules.defaultFeeder_ne hfeeder) hfile hsame⟩

/-- Runs that make no schema for a table do not write to the place of its schema. -/
theorem lastWrite_eq_none (hlog : Succeeded store tree log tree')
    {others : List (Request × CompiledArtifacts)} (hothers : ∀ entry ∈ others, entry ∈ log)
    (hplain : ∀ entry ∈ others, entry.1.Plain) {domain table : String} {tier : Tier}
    (hdomain : Path.IsPlain domain) (hname : Path.IsPlain (schemaFileName tier table))
    (hnever : ∀ entry ∈ others, entry.1.domain = domain → entry.1.tier = tier →
      ∀ schema ∈ entry.2.targetSchemas, schema.tableName ≠ table) :
    tree.lastWrite (writesOfLog store others)
      (tree.place (store.schemaPath domain tier table)) = none := by
  refine FileTree.lastWrite_eq_none fun w hw hplace => ?_
  obtain ⟨entry, hentry, hw⟩ := List.mem_flatMap.mp hw
  obtain ⟨file, hfile, rfl⟩ := List.mem_map.mp hw
  obtain ⟨hd, ht, schema, hschema, htable, -⟩ :=
    hlog.schema_of_place (hothers entry hentry) (hplain entry hentry) hdomain hname hfile hplace
  exact hnever entry hentry hd ht schema hschema htable

/-- With plain names, what a run writes to the place of a schema that it makes is the schema. -/
theorem lastWrite_eq_some (hlog : Succeeded store tree log tree') (hentry : (request, a) ∈ log)
    (hplain : request.Plain) (hschema : schema ∈ a.targetSchemas)
    (hname : Path.IsPlain (schemaFileName request.tier schema.tableName)) :
    tree.lastWrite (store.writes request.domain request.tier a.entries)
      (tree.place (store.schemaPath request.domain request.tier schema.tableName)) =
        some (Store.content schema.toJson) := by
  obtain ⟨schemas, hyields⟩ := hlog.exists_yields hentry
  have hown := hlog.schema_mem_files hentry hschema
  refine FileTree.lastWrite_eq_some ⟨_, List.mem_map.mpr ⟨_, hown, rfl⟩, rfl⟩
    fun w hw hplace => ?_
  obtain ⟨file, hfile, rfl⟩ := List.mem_map.mp hw
  obtain ⟨-, -, found, hfound, htable, hjson⟩ :=
    hlog.schema_of_place hentry hplain hplain.domain hname hfile hplace
  dsimp only
  rw [hjson, hyields.schema_unique hfound hschema htable]

/-- With plain names, the last run that makes a schema for a table in a tier of a domain leaves
it. -/
theorem leaves_of_last (before after : List (Request × CompiledArtifacts))
    (hlog : Succeeded store tree (before ++ (request, a) :: after) tree')
    (hplain : ∀ entry ∈ (request, a) :: after, entry.1.Plain) (hschema : schema ∈ a.targetSchemas)
    (hlast : ∀ entry ∈ after, entry.1.domain = request.domain → entry.1.tier = request.tier →
      ∀ later ∈ entry.2.targetSchemas, later.tableName ≠ schema.tableName) :
    Leaves store tree (before ++ (request, a) :: after) request schema := by
  obtain ⟨hown, hplain⟩ := List.forall_mem_cons.mp hplain
  have hentry : (request, a) ∈ before ++ (request, a) :: after :=
    List.mem_append_right _ List.mem_cons_self
  have hothers (entry : Request × CompiledArtifacts) (hmem : entry ∈ after) :
      entry ∈ before ++ (request, a) :: after :=
    List.mem_append_right _ (List.mem_cons_of_mem _ hmem)
  have hname := hlog.isPlain_file hentry hown (hlog.schema_mem_files hentry hschema)
  have hafter := hlog.lastWrite_eq_none hothers hplain hown.domain hname hlast
  have hhere := hlog.lastWrite_eq_some hentry hown hschema hname
  refine ⟨⟨a, hentry, hschema⟩, ?_⟩
  unfold writesOfLog at hafter ⊢
  rw [List.flatMap_append, List.flatMap_cons, FileTree.lastWrite_append,
    FileTree.lastWrite_append, hafter, hhere, Option.none_or, Option.some_or]

end Succeeded

/-! ## The next tier -/

/-- The mapping of a row that reads a source column is direct, and has the type of the column. -/
theorem MappingSet.mapsTo_of_source {job : Job} {table source name : String} {row : MappingRow}
    {mapping : Option ColumnMapping} (hmapping : MapsTo job table row mapping)
    (hsource : row.sourceTable = some source) (hname : row.sourceColumn = some name) :
    ∃ target found, row.targetColumn = some target ∧
      (job.schemas.schema? source).bind (·.column? name) = some found ∧
      mapping = some ⟨target, job.rules.mapType found.type,
        .direct name (job.rules.mapType found.type)⟩ := by
  have hcase := rowCase job table row
  cases mapping with
  | none =>
    obtain ⟨e, hfails, hrecoverable⟩ := hmapping
    rw [hfails] at hcase
    cases hcase with
    | noTargetColumn _ => cases hrecoverable
    | unresolved _ _ _ _ => cases hrecoverable
    | computed _ hnone _ => simp [hsource, hname] at hnone
  | some mapping =>
    rw [show rowMapping job table row = .ok mapping from hmapping] at hcase
    cases hcase with
    | direct htarget hsource' hname' hfound =>
      cases hsource.symm.trans hsource'
      cases hname.symm.trans hname'
      exact ⟨_, _, htarget, hfound, rfl⟩
    | computed _ hnone _ => simp [hsource, hname] at hnone

/-- What is cached for a table whose schema is there is that schema. -/
theorem SchemaSource.cached_of_holds {source : SchemaSource} {tree : FileTree}
    {upper lower : Tier} {domain : String} {tables : List String} {schemas : SchemaCache}
    {schema : TargetSchema} {answer : SourceSchema}
    (hdefault : source.rules.feeder = Rules.defaultFeeder)
    (hfeeder : Rules.defaultFeeder upper = some lower) (hlower : lower = .bronze ∨ lower = .silver)
    (hholds : source.store.Holds tree domain lower schema.tableName schema)
    (hresolved : (resolveAll (source.resolver tree) domain upper tables).answer = .ok schemas)
    (hcached : schemas.schema? schema.tableName = some answer) : answer = schema.asSource := by
  have hanswer := (schema?_eq_some hresolved hcached).2
  rw [resolver_of_holds hdefault hfeeder hlower hholds] at hanswer
  exact (Except.ok.inj hanswer).symm

/-- The first column of a name is found in front of the audit columns if it is there. -/
theorem TargetSchema.column?_asSource {schema : TargetSchema} {own auditColumns : List Column}
    {name : String} {column : Column} (hcolumns : schema.columns = own ++ auditColumns)
    (hown : own.find? (fun c => c.name == name) = some column) :
    schema.asSource.column? name = some column := by
  show schema.columns.find? (fun c => c.name == name) = some column
  rw [hcolumns, List.find?_append, hown, Option.some_or]

/-- The columns that a schema has in front of the audit columns are typed by names of data types,
whichever of some runs has made it. -/
theorem Succeeded.exists_type_of_own {store : Store} {tree tree' : FileTree}
    {log : List (Request × CompiledArtifacts)} {request : Request} {schema : TargetSchema}
    {own auditColumns : List Column} {column : Column} (hlog : Succeeded store tree log tree')
    (hleaves : Leaves store tree log request schema)
    (haudit : request.audit request.tier = .ok auditColumns)
    (hcolumns : schema.columns = own ++ auditColumns) (hcolumn : column ∈ own) :
    ∃ type : DataType, column.type = type.name := by
  obtain ⟨a, hentry, hmade⟩ := hleaves.made
  obtain ⟨schemas, hyields⟩ := hlog.exists_yields hentry
  exact TargetSchema.exists_type_of_own (hyields.ofTable_of_mem hmade).1 haudit hcolumns hcolumn

/-- After any runs that succeed, let a schema be left that one of them has made, and let the next
tier be compiled.  A row that reads a column of this schema, of which the first one of its name is
not an audit column, is mapped directly, and both the mapping and its source have the type that
the schema has for the column. -/
theorem types_do_not_drift {store : Store} {tree tree' : FileTree}
    {log : List (Request × CompiledArtifacts)} {below request : Request} {schema : TargetSchema}
    {own auditColumns : List Column} {a : CompiledArtifacts} {set : MappingSet}
    (hlog : Succeeded store tree log tree') (hleaves : Leaves store tree log below schema)
    (haudit : below.audit below.tier = .ok auditColumns)
    (hcolumns : schema.columns = own ++ auditColumns) (hdomain : below.domain = request.domain)
    (hfeeder : Rules.defaultFeeder request.tier = some below.tier)
    (hbelow : below.tier = .bronze ∨ below.tier = .silver)
    (hcompiled : request.compiled store tree' = .ok a) (hset : set ∈ a.mappings) :
    ∃ found : List (Option ColumnMapping),
      set.columns =
        (MappingSet.keyMapping? request.spec (request.spec.rowsOfTarget set.tableName)).toList ++
          found.filterMap id ∧
      List.Forall₂ (fun row mapping =>
          ∀ name column, row.sourceTable = some schema.tableName →
            row.sourceColumn = some name → own.find? (fun c => c.name == name) = some column →
            ∃ target type, row.targetColumn = some target ∧
              mapping = some ⟨target, type, .direct name type⟩ ∧ column.type = type.name)
        (request.spec.rowsOfTarget set.tableName) found := by
  have hholds : (request.source store).store.Holds tree' request.domain below.tier
      schema.tableName schema := hdomain ▸ hlog.holds_of_leaves hleaves
  obtain ⟨schemas, hvalidate, hyields⟩ := compile_eq_ok.mp hcompiled
  have hresolved := resolved_of_validate hvalidate
  obtain ⟨feeder, -, hsets⟩ := MappingSet.ofJob_eq_ok.mp hyields.mappings
  obtain ⟨table, -, hof⟩ := exists_of_forall₂_right hsets hset
  obtain ⟨found, hfound, rfl⟩ := MappingSet.ofTable_eq_ok hof
  refine ⟨found, rfl, hfound.imp fun row mapping hmapping name column hsource hname hown => ?_⟩
  obtain ⟨target, read, htarget, hread, rfl⟩ :=
    MappingSet.mapsTo_of_source hmapping hsource hname
  obtain ⟨answer, hanswer, hread⟩ := Option.bind_eq_some_iff.mp hread
  obtain rfl : answer = schema.asSource :=
    SchemaSource.cached_of_holds rfl hfeeder hbelow hholds hresolved hanswer
  have hfirst := TargetSchema.column?_asSource hcolumns hown
  obtain rfl : column = read := Option.some.inj (hfirst.symm.trans hread)
  -- the type of the column is the name of a data type, and stands for it
  obtain ⟨type, htype⟩ :=
    hlog.exists_type_of_own hleaves haudit hcolumns (List.mem_of_find?_eq_some hown)
  have hsame : Rules.default.mapType column.type = type := by rw [htype, Rules.mapType_name]
  refine ⟨target, type, htarget, ?_, htype⟩
  show some (ColumnMapping.mk target (Rules.default.mapType column.type)
    (.direct name (Rules.default.mapType column.type))) = _
  rw [hsame]

/-! ## Silver after bronze -/

namespace BronzeThenSilver

def requestBronze : Request where
  settings := source.settings
  secrets := source.secrets
  introspector := source.introspector
  output := .default
  audit := bronze.audit
  spec := bronze.spec
  domain := "sales"
  tier := .bronze

def requestSilver : Request := { requestBronze with spec := silver.spec, tier := .silver }

theorem compiled_silver :
    requestSilver.compiled source.store runBronze.2 = .ok silverArtifacts := by
  -- for any file tree, so that nothing is run to compare the two sides
  have hsame (tree : FileTree) : requestSilver.compiled source.store tree =
      ((compiler tree).compile silver.spec "sales" .silver).answer := rfl
  rw [hsame, compile_silver]

theorem succeeded_bronze :
    Succeeded source.store before [(requestBronze, bronzeArtifacts)] runBronze.2 :=
  .cons compile_bronze runBronze_eq .nil

theorem leaves_bronze :
    Leaves source.store before [(requestBronze, bronzeArtifacts)] requestBronze schema := by
  have hplain : requestBronze.Plain := ⟨bronze.spec_plain, bronze.domain_plain⟩
  refine Succeeded.leaves_of_last [] [] succeeded_bronze ?_
    (List.mem_singleton_self schema) (fun _ hentry => by cases hentry)
  intro entry hentry
  rw [List.mem_singleton.mp hentry]
  exact hplain

end BronzeThenSilver

open BronzeThenSilver in
/-- The column `X` of `T` is an integer in bronze, and what silver maps from it is one. -/
theorem types_do_not_drift_silver :
    schema.columns.map (fun c => (c.name, c.type)) = [("X", DataType.integer.name)] ∧
      ∃ found : List (Option ColumnMapping),
        [⟨"Y", .integer, .direct "X" .integer⟩] =
          (MappingSet.keyMapping? silver.spec (silver.spec.rowsOfTarget "U")).toList ++
            found.filterMap id ∧
        List.Forall₂ (fun row mapping =>
            ∀ name column, row.sourceTable = some "T" → row.sourceColumn = some name →
              schema.columns.find? (fun c => c.name == name) = some column →
              ∃ target type, row.targetColumn = some target ∧
                mapping = some ⟨target, type, .direct name type⟩ ∧ column.type = type.name)
          (silver.spec.rowsOfTarget "U") found := by
  have hown : schema.columns = schema.columns ++ [] := (List.append_nil _).symm
  have hdomain : requestBronze.domain = requestSilver.domain := rfl
  exact ⟨rfl, types_do_not_drift succeeded_bronze leaves_bronze rfl hown hdomain rfl (.inl rfl)
    compiled_silver (List.mem_singleton_self _)⟩

end Medallion
