import Medallion.Proofs.Compilation.History
import Mathlib.Data.Prod.Basic

/-!
# What feeds a run

A run asks the resolver for the schemas of its source tables and for nothing else, so two
resolvers that agree on these tables lead to the same artifacts (`Compiler.compile_congr`).

A run that compiles has got an answer for each of its source tables.  If the tier is fed by
bronze or silver, the answer is what was loaded from the schema artifact of that table
(`SchemaSource.resolver_of_artifact`):

* the artifact can be read (`SchemaSource.exists_read_of_compile`), and as long as it reads
  the same the answer is the same (`SchemaSource.resolver_congr`);
* if it is there as the schema of a target table was written, the answer is that schema as
  the tier above reads it (`SchemaSource.resolver_of_holds`).  A run leaves the schemas of its
  target tables in this way (`holds_of_write`, `holds_of_run`).

`BronzeThenSilver.compile_silver` is a run of silver on what a run of bronze has left.
-/

namespace Medallion

/-- The compiler that resolves source schemas in a file tree. -/
def SchemaSource.compiler (source : SchemaSource) (output : OutputSettings)
    (audit : AuditProvider) (tree : FileTree) : Compiler where
  rules := source.rules
  output := output
  resolver := source.resolver tree
  audit := audit

/-! ## What a compiler asks for -/

section Answers

variable {resolver resolver' : Resolver} {spec : Specification} {domain : String} {tier : Tier}

theorem resolveAll_congr {tables : List String}
    (hsame : ∀ table ∈ tables, resolver domain tier table = resolver' domain tier table) :
    resolveAll resolver domain tier tables = resolveAll resolver' domain tier tables := by
  induction tables with
  | nil => rfl
  | cons table tables ih =>
    have hrest := ih fun t ht => hsame t (List.mem_cons_of_mem table ht)
    unfold resolveAll Resolver.ask
    rw [hsame table List.mem_cons_self, hrest]

theorem validate_congr {rules : Rules}
    (hsame : ∀ table ∈ spec.sourceTables,
      resolver domain tier table = resolver' domain tier table) :
    validate spec domain tier rules resolver = validate spec domain tier rules resolver' := by
  unfold validate checkSourceTables
  cases htables : spec.sourceTables with
  | nil => rfl
  | cons table tables =>
    rw [htables] at hsame
    have hall := resolveAll_congr hsame
    simp only [hall, Consult.ofExcept, Consult.ok_bind]

/-- Resolvers that agree on the source tables lead to the same artifacts. -/
theorem Compiler.compile_congr {c c' : Compiler} (hrules : c.rules = c'.rules)
    (houtput : c.output = c'.output) (haudit : c.audit = c'.audit)
    (hsame : ∀ table ∈ spec.sourceTables,
      c.resolver domain tier table = c'.resolver domain tier table) :
    c.compile spec domain tier = c'.compile spec domain tier := by
  unfold compile
  rw [validate_congr hsame, hrules, houtput, haudit]

/-- A specification that compiles has got an answer for every source table. -/
theorem exists_answer_of_compile {c : Compiler} {a : CompiledArtifacts} {table : String}
    (hcompile : (c.compile spec domain tier).answer = .ok a) (htable : table ∈ spec.sourceTables) :
    ∃ schema, (c.resolver domain tier table).answer = .ok schema := by
  obtain ⟨schemas, hvalidate, -⟩ := compile_eq_ok.mp hcompile
  have hresolved := resolved_of_validate hvalidate
  obtain ⟨schema, hschema⟩ := exists_schema?_of_mem hresolved htable
  exact ⟨schema, (schema?_eq_some hresolved hschema).2⟩

end Answers

/-! ## Answers from artifacts -/

theorem Store.exists_read_of_load {α : Type} {tree : FileTree} {path : Path}
    {read : Document → Option α} {a : α} (hload : load tree path read = .ok a) :
    ∃ content, tree.read path = .ok content := by
  cases hread : tree.read path with
  | ok content => exact ⟨content, rfl⟩
  | error e =>
    have htext : tree.readText path = .error e := by
      unfold FileTree.readText
      rw [hread]
      rfl
    unfold load at hload
    rw [htext] at hload
    cases e <;> cases hload

theorem Store.load_congr {α : Type} {tree tree' : FileTree} {path : Path}
    (read : Document → Option α) (hread : tree'.read path = tree.read path) :
    load tree' path read = load tree path read := by
  unfold load FileTree.readText
  rw [hread]

namespace SchemaSource

variable {source : SchemaSource} {tree tree' : FileTree} {upper lower : Tier}
  {domain table : String}

/-- A tier that is fed by bronze or silver gets the schemas of the artifacts there. -/
theorem resolver_of_artifact (hdefault : source.rules.feeder = Rules.defaultFeeder)
    (hfeeder : Rules.defaultFeeder upper = some lower) (hlower : lower = .bronze ∨ lower = .silver) :
    source.resolver tree domain upper table =
      .ofExcept (Store.load tree (source.store.schemaPath domain lower table)
        SourceSchema.ofDocument?) := by
  unfold resolver
  rw [hdefault, hfeeder]
  rcases hlower with rfl | rfl <;> rfl

/-- Answers change only with the artifacts of the tier below. -/
theorem resolver_congr (hdefault : source.rules.feeder = Rules.defaultFeeder)
    (hread : ∀ lower, Rules.defaultFeeder upper = some lower → lower = .bronze ∨ lower = .silver →
      tree'.read (source.store.schemaPath domain lower table) =
        tree.read (source.store.schemaPath domain lower table)) :
    source.resolver tree' domain upper table = source.resolver tree domain upper table := by
  cases upper with
  | landingZone | bronze =>
    unfold resolver
    rw [hdefault]
    rfl
  | silver =>
    rw [resolver_of_artifact hdefault rfl (.inl rfl), resolver_of_artifact hdefault rfl (.inl rfl),
      Store.load_congr _ (hread .bronze rfl (.inl rfl))]
  | gold =>
    rw [resolver_of_artifact hdefault rfl (.inr rfl), resolver_of_artifact hdefault rfl (.inr rfl),
      Store.load_congr _ (hread .silver rfl (.inr rfl))]

/-- The artifacts that feed a specification that compiles can be read. -/
theorem exists_read_of_compile {output : OutputSettings} {audit : AuditProvider}
    {spec : Specification} {a : CompiledArtifacts}
    (hdefault : source.rules.feeder = Rules.defaultFeeder)
    (hfeeder : Rules.defaultFeeder upper = some lower) (hlower : lower = .bronze ∨ lower = .silver)
    (hcompile : ((source.compiler output audit tree).compile spec domain upper).answer = .ok a)
    (htable : table ∈ spec.sourceTables) :
    ∃ content, tree.read (source.store.schemaPath domain lower table) = .ok content := by
  have hasked : ∃ schema, (source.resolver tree domain upper table).answer = .ok schema :=
    exists_answer_of_compile hcompile htable
  obtain ⟨schema, hanswer⟩ := hasked
  rw [resolver_of_artifact hdefault hfeeder hlower] at hanswer
  exact Store.exists_read_of_load hanswer

end SchemaSource

/-! ## Schemas of target tables -/

/-- Whether the artifact of a table is there as the schema of a target table is written. -/
def Store.Holds (store : Store) (tree : FileTree) (domain : String) (tier : Tier)
    (table : String) (schema : TargetSchema) : Prop :=
  tree.read (store.schemaPath domain tier table) = .ok (content schema.toJson)

/-- The tier above is fed with the schemas that are there. -/
theorem SchemaSource.resolver_of_holds {source : SchemaSource} {tree : FileTree}
    {upper lower : Tier} {domain table : String} {schema : TargetSchema}
    (hdefault : source.rules.feeder = Rules.defaultFeeder)
    (hfeeder : Rules.defaultFeeder upper = some lower) (hlower : lower = .bronze ∨ lower = .silver)
    (hholds : source.store.Holds tree domain lower table schema) :
    source.resolver tree domain upper table = .ofExcept (.ok schema.asSource) := by
  rw [resolver_of_artifact hdefault hfeeder hlower,
    Store.load_content hholds schema.isWhole_toJson (SourceSchema.ofDocument?_targetSchema schema)]

theorem schema_mem_entries {a : CompiledArtifacts} {schema : TargetSchema}
    (hschema : schema ∈ a.targetSchemas) : (schema.fileName a.tier, schema.toJson) ∈ a.entries := by
  have hmem : (schema.fileName a.tier, schema.toJson) ∈
      a.targetSchemas.map fun s => (s.fileName a.tier, s.toJson) := List.mem_map_of_mem hschema
  exact List.mem_append_left _ (List.mem_append_left _ (List.mem_append_right _ hmem))

section Writing

variable {store : Store} {tree tree' : FileTree} {a : CompiledArtifacts} {names : List String}
  {schema : TargetSchema}

/-- Writing artifacts leaves the schema of a target table, if nothing else is written over
it. -/
theorem holds_of_write (hwrite : a.write store tree = (.ok names, tree'))
    (hschema : schema ∈ a.targetSchemas)
    (honly : ∀ file ∈ a.entries,
      tree.place (store.artifactPath a.domain a.tier file.1) =
          tree.place (store.schemaPath a.domain a.tier schema.tableName) →
        file.2 = schema.toJson) :
    store.Holds tree' a.domain a.tier schema.tableName schema := by
  have hchanges := CompiledArtifacts.changes_of_saveAll hwrite
  have hentry := schema_mem_entries hschema
  have hw : (store.schemaPath a.domain a.tier schema.tableName, Store.content schema.toJson) ∈
      store.writes a.domain a.tier a.entries := by
    rw [Store.writes, List.mem_map]
    exact ⟨_, hentry, rfl⟩
  have hlast : tree.lastWrite (store.writes a.domain a.tier a.entries)
      (tree.place (store.schemaPath a.domain a.tier schema.tableName)) =
        some (Store.content schema.toJson) := by
    refine FileTree.lastWrite_eq_some ⟨_, hw, ?_⟩ fun w hw hplace => ?_
    · rfl
    · obtain ⟨file, hfile, rfl⟩ := List.mem_map.mp hw
      dsimp only
      rw [honly file hfile hplace]
  have hreached := hchanges.reached _ hw
  refine FileTree.read_of_fileAt hreached ?_
  rw [hchanges.file, hlast, Option.some_or]

/-- A run that succeeds leaves the schemas of its target tables. -/
theorem holds_of_run {c : Compiler} {spec : Specification} {domain table : String} {tier : Tier}
    (hfeeder : c.rules.feeder tier ≠ some tier) (hdomain : Path.IsPlain domain)
    (hspec : spec.PlainTargets) (hcompile : (c.compile spec domain tier).answer = .ok a)
    (hrun : c.run store spec domain tier tree = (.ok names, tree'))
    (hschema : schema ∈ a.targetSchemas) (htable : schema.tableName = table) :
    store.Holds tree' domain tier table schema := by
  subst htable
  obtain ⟨schemas, -, hyields⟩ := compile_eq_ok.mp hcompile
  obtain ⟨feeder, hsome, hne⟩ := hyields.exists_feeder hfeeder
  have hfiles (file : String × Json) (hfile : file ∈ a.entries) : Path.IsPlain file.1 :=
    hyields.isPlain_entry hsome hspec hdomain hfile
  obtain rfl : a.domain = domain := hyields.domain
  obtain rfl : a.tier = tier := hyields.tier
  rw [Compiler.run, hcompile] at hrun
  refine holds_of_write hrun hschema fun file hfile hplace => ?_
  -- whatever else is written there is the same schema
  have hname := ((Store.place_artifactPath_inj hdomain (hfiles file hfile) hdomain
    (hfiles _ (schema_mem_entries hschema))).mp hplace).2.2
  obtain ⟨schema', hschema', htable, hjson⟩ := hyields.schema_of_entry hsome hne hfile hname
  rw [hjson, hyields.schema_unique hschema' hschema htable]

end Writing

/-! ## Silver after bronze -/

namespace BronzeThenSilver

/-- The schema that bronze makes for `T`. -/
def schema : TargetSchema := ⟨"sales", "T", [], ["IngestDate"], [⟨"X", "integer"⟩]⟩

def bronzeArtifacts : CompiledArtifacts where
  domain := "sales"
  tier := .bronze
  targetTables := ⟨.ingest, .bronze, none, none, ["T"]⟩
  sourceSchemas := [("landing-zone_schema_T.json", ⟨"sales", "A", [], [⟨"id", "string"⟩]⟩)]
  targetSchemas := [schema]
  linkages := [⟨.landingZone, "cura", "A", .bronze, "cura", "T"⟩]
  mappings := [⟨"sales", "T", .landingZone, .bronze, [⟨"X", .integer, .direct "id" .integer⟩]⟩]

def silverArtifacts : CompiledArtifacts where
  domain := "sales"
  tier := .silver
  targetTables := ⟨.merge, .silver, none, none, ["U"]⟩
  sourceSchemas := [("bronze_schema_U.json", schema.asSource)]
  targetSchemas :=
    [⟨"sales", "U", ["MergeKey"], [], [⟨"MergeKey", "string"⟩, ⟨"Y", "integer"⟩]⟩]
  linkages := [⟨.bronze, "cura", "T", .silver, "cura", "U"⟩]
  mappings := [⟨"sales", "U", .bronze, .silver, [⟨"Y", .integer, .direct "X" .integer⟩]⟩]

def compiler (tree : FileTree) : Compiler := source.compiler .default bronze.audit tree

def runBronze : Saved (List String) :=
  (compiler before).run source.store bronze.spec "sales" .bronze before

def bronzeNames : List String :=
  ["bronze_target_tables_sales.json", "landing-zone_schema_T.json", "bronze_schema_T.json",
    "bronze_pipeline_T.json", "bronze_map_T.json"]

theorem compile_bronze :
    ((compiler before).compile bronze.spec "sales" .bronze).answer = .ok bronzeArtifacts := by
  with_unfolding_all rfl

theorem runBronze_eq : runBronze = (.ok bronzeNames, runBronze.2) := by
  have hnames : runBronze.1 = .ok bronzeNames := by decide +kernel
  exact Prod.fst_eq_iff.mp hnames

theorem holds_runBronze : source.store.Holds runBronze.2 "sales" .bronze "T" schema :=
  holds_of_run (by decide) bronze.domain_plain bronze.spec_plain compile_bronze runBronze_eq
    (List.mem_singleton_self schema) rfl

theorem compile_silver :
    ((compiler runBronze.2).compile silver.spec "sales" .silver).answer = .ok silverArtifacts := by
  have hanswer : source.resolver runBronze.2 "sales" .silver "T" = .ofExcept (.ok schema.asSource) :=
    SchemaSource.resolver_of_holds rfl rfl (.inl rfl) holds_runBronze
  have hsources : silver.spec.sourceTables = ["T"] := by decide +kernel
  have hsame : (compiler runBronze.2).compile silver.spec "sales" .silver =
      ({ compiler runBronze.2 with
          resolver := fun _ _ _ => .ofExcept (.ok schema.asSource) } : Compiler).compile
        silver.spec "sales" .silver := by
    refine Compiler.compile_congr rfl rfl rfl fun table htable => ?_
    rw [hsources, List.mem_singleton] at htable
    rw [htable]
    exact hanswer
  rw [hsame]
  with_unfolding_all rfl

end BronzeThenSilver

end Medallion
