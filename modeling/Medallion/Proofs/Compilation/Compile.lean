import Medallion.Compilation
import Medallion.Proofs.Steps

/-!
# What compiling yields

A run that compiles has passed every check and has got an answer from the resolver for
every source table; nothing else can be concluded from its answer, and nothing less:

* `validate_eq_ok`: the checks that were passed, and the schemas that were found
  (`resolved_of_validate`);
* `artifacts_eq_ok`: the seven parts of the artifacts (`Job.Yields`);
* `compile_eq_ok`: both together;
* `run_of_compile`, `run_of_compile_error`: what a run does with it.

`TwoSources.compile` is a small run.
-/

namespace Medallion

section Runs

/-! ## Validation -/

variable {spec : Specification} {domain : String} {tier : Tier} {rules : Rules}
  {resolver : Resolver} {schemas : SchemaCache}

theorem checkHeaders_eq_ok {u : Unit} :
    checkHeaders spec tier rules = .ok u ↔
      ∃ required, rules.required tier = some required ∧ spec.missingHeaders required = [] := by
  unfold checkHeaders
  cases hrequired : rules.required tier with
  | none => simp
  | some required =>
    dsimp only
    cases hmissing : spec.missingHeaders required with
    | nil => simp [hmissing]
    | cons header more => simp [hmissing]

theorem checkSourceTables_eq_ok {tables : List String} :
    checkSourceTables spec tier = .ok tables ↔
      spec.sourceTables ≠ [] ∧ tables = spec.sourceTables := by
  unfold checkSourceTables
  cases hsources : spec.sourceTables with
  | nil => simp
  | cons table more => simp [eq_comm]

theorem checkColumns_eq_ok {validated : Validated} :
    checkColumns spec schemas = .ok validated ↔
      spec.invalidColumns schemas = [] ∧ validated = ⟨spec, schemas⟩ := by
  unfold checkColumns
  cases hinvalid : spec.invalidColumns schemas with
  | nil => simp [eq_comm]
  | cons column more => simp

/-- The cache has the answers of the resolver, table by table. -/
theorem resolveAll_eq_ok {tables : List String} :
    (resolveAll resolver domain tier tables).answer = .ok schemas ↔
      List.Forall₂ (fun table (entry : String × SourceSchema) =>
        entry.1 = table ∧ (resolver domain tier table).answer = .ok entry.2) tables schemas := by
  induction tables generalizing schemas with
  | nil =>
    rw [resolveAll, Consult.pure_answer, List.forall₂_nil_left_iff, Except.ok.injEq, eq_comm]
  | cons table tables ih =>
    simp only [resolveAll, Consult.bind_answer_eq_ok, Resolver.ask_answer, Consult.pure_answer,
      List.forall₂_cons_left_iff]
    constructor
    · rintro ⟨schema, hschema, cache, hcache, hpure⟩
      exact ⟨(table, schema), cache, ⟨rfl, hschema⟩, ih.mp hcache,
        (Except.ok.inj hpure).symm⟩
    · rintro ⟨⟨_, schema⟩, cache, ⟨rfl, hschema⟩, hcache, rfl⟩
      exact ⟨schema, hschema, cache, ih.mpr hcache, rfl⟩

/-- A specification that is fit is answered as it is, with what the resolver has answered. -/
theorem validate_eq_ok {validated : Validated} :
    (validate spec domain tier rules resolver).answer = .ok validated ↔
      validated.spec = spec ∧
        (∃ required, rules.required tier = some required ∧ spec.missingHeaders required = []) ∧
        spec.sourceTables ≠ [] ∧
        (resolveAll resolver domain tier spec.sourceTables).answer = .ok validated.schemas ∧
        spec.invalidColumns validated.schemas = [] := by
  simp only [validate, Consult.bind_answer_eq_ok, Consult.ofExcept_answer, checkHeaders_eq_ok,
    checkSourceTables_eq_ok, checkColumns_eq_ok]
  constructor
  · rintro ⟨_, hheaders, _, ⟨hsources, rfl⟩, schemas, hfound, hinvalid, rfl⟩
    exact ⟨rfl, hheaders, hsources, hfound, hinvalid⟩
  · obtain ⟨found, schemas⟩ := validated
    rintro ⟨rfl, hheaders, hsources, hfound, hinvalid⟩
    exact ⟨(), hheaders, _, ⟨hsources, rfl⟩, schemas, hfound, hinvalid, rfl⟩

theorem resolved_of_validate {validated : Validated}
    (hvalidate : (validate spec domain tier rules resolver).answer = .ok validated) :
    (resolveAll resolver domain tier spec.sourceTables).answer = .ok validated.schemas := by
  obtain ⟨-, -, -, hresolved, -⟩ := validate_eq_ok.mp hvalidate
  exact hresolved

/-- A schema in the cache is what the resolver answered for the table. -/
theorem schema?_eq_some {tables : List String} {table : String} {schema : SourceSchema}
    (hresolved : (resolveAll resolver domain tier tables).answer = .ok schemas)
    (hschema : schemas.schema? table = some schema) :
    table ∈ tables ∧ (resolver domain tier table).answer = .ok schema := by
  have hpairs := resolveAll_eq_ok.mp hresolved
  clear hresolved
  unfold SchemaCache.schema? at hschema
  induction hpairs with
  | nil => simp at hschema
  | @cons t entry tables schemas hentry _ ih =>
    obtain ⟨name, found⟩ := entry
    obtain ⟨rfl, hfound⟩ := hentry
    by_cases heq : table = name
    · subst heq
      rw [List.lookup_cons_self] at hschema
      cases hschema
      exact ⟨List.mem_cons_self, hfound⟩
    · simp only [List.lookup_cons, beq_false_of_ne heq] at hschema
      exact ⟨List.mem_cons_of_mem _ (ih hschema).1, (ih hschema).2⟩

/-- Every table that was asked for is in the cache. -/
theorem exists_schema?_of_mem {tables : List String} {table : String}
    (hresolved : (resolveAll resolver domain tier tables).answer = .ok schemas)
    (htable : table ∈ tables) : ∃ schema, schemas.schema? table = some schema := by
  obtain ⟨entry, hentry, hname, -⟩ := exists_of_forall₂_left (resolveAll_eq_ok.mp hresolved) htable
  have hsome : (schemas.lookup table).isSome = true := by
    rw [List.lookup_isSome_iff]
    exact ⟨entry, hentry, by simp [hname]⟩
  exact Option.isSome_iff_exists.mp hsome

/-! ## Artifacts -/

/-- The artifacts that a job yields when all of them can be made. -/
structure Job.Yields (job : Job) (output : OutputSettings) (audit : AuditProvider)
    (a : CompiledArtifacts) : Prop where
  domain : a.domain = job.domain
  tier : a.tier = job.tier
  targetTables : a.targetTables = .ofJob job output
  sourceSchemas : a.sourceSchemas = job.echoes
  targetSchemas : TargetSchema.ofJob job audit = .ok a.targetSchemas
  linkages : Linkage.ofJob job output.tablePath = .ok a.linkages
  mappings : MappingSet.ofJob job = .ok a.mappings

theorem artifacts_eq_ok {job : Job} {output : OutputSettings} {audit : AuditProvider}
    {a : CompiledArtifacts} :
    job.artifacts output audit = .ok a ↔ job.Yields output audit a := by
  simp only [Job.artifacts, bind_eq_ok]
  constructor
  · rintro ⟨targetSchemas, hschemas, linkages, hlinkages, mappings, hmappings, hok⟩
    cases hok
    exact ⟨rfl, rfl, rfl, rfl, hschemas, hlinkages, hmappings⟩
  · intro hyields
    refine ⟨_, hyields.targetSchemas, _, hyields.linkages, _, hyields.mappings, ?_⟩
    obtain ⟨_, _, _, _, _, _, _⟩ := a
    obtain ⟨rfl, rfl, rfl, rfl, -, -, -⟩ := hyields
    rfl

theorem compile_eq_ok {c : Compiler} {a : CompiledArtifacts} :
    (c.compile spec domain tier).answer = .ok a ↔
      ∃ schemas, (validate spec domain tier c.rules c.resolver).answer = .ok ⟨spec, schemas⟩ ∧
        (Job.mk domain tier c.rules spec schemas).Yields c.output c.audit a := by
  simp only [Compiler.compile, Consult.bind_answer_eq_ok, Consult.ofExcept_answer,
    artifacts_eq_ok]
  constructor
  · rintro ⟨⟨found, schemas⟩, hvalidate, hyields⟩
    obtain rfl : found = spec := (validate_eq_ok.mp hvalidate).1
    exact ⟨schemas, hvalidate, hyields⟩
  · rintro ⟨schemas, hvalidate, hyields⟩
    exact ⟨⟨spec, schemas⟩, hvalidate, hyields⟩

/-! ## Runs -/

variable {c : Compiler} {store : Store} {tree : FileTree} {a : CompiledArtifacts}

/-- A run writes what it has compiled, in the directory of its domain and tier. -/
theorem run_of_compile (hcompile : (c.compile spec domain tier).answer = .ok a) :
    c.run store spec domain tier tree = CompiledArtifacts.saveAll store domain tier a.entries tree := by
  obtain ⟨schemas, -, hyields⟩ := compile_eq_ok.mp hcompile
  rw [Compiler.run, hcompile]
  dsimp only
  rw [CompiledArtifacts.write, hyields.domain, hyields.tier]

theorem run_of_compile_error {e : MapError}
    (hcompile : (c.compile spec domain tier).answer = .error e) :
    c.run store spec domain tier tree = (.error e, tree) := by
  rw [Compiler.run, hcompile]

end Runs

/-! ## A run with two source tables -/

namespace TwoSources

/-- A target table `T` that has one column from each of two source tables. -/
def spec : Specification :=
  .ofTable ⟨Header.all,
    [[.text "A", .text "id", .text "T", .text "X"],
      [.text "B", .text "id", .text "T", .text "Y"]]⟩

/-- The columns of the two source tables have the same name and different types. -/
def compiler : Compiler where
  rules := .default
  output := .default
  resolver domain _ table :=
    .ofExcept (.ok (.ofColumns domain table [⟨"id", if table = "A" then "int" else "bigint"⟩]))
  audit _ := .ok []

def schema : TargetSchema :=
  ⟨"sales", "T", [], ["IngestDate"], [⟨"X", "integer"⟩, ⟨"Y", "integer"⟩]⟩

def mappings : MappingSet :=
  ⟨"sales", "T", .landingZone, .bronze,
    [⟨"X", .integer, .direct "id" .integer⟩, ⟨"Y", .long, .direct "id" .long⟩]⟩

def artifacts : CompiledArtifacts where
  domain := "sales"
  tier := .bronze
  targetTables := ⟨.ingest, .bronze, none, none, ["T"]⟩
  sourceSchemas :=
    [("landing-zone_schema_T.json", ⟨"sales", "A", [], [⟨"id", "string"⟩]⟩),
      ("landing-zone_schema_T.json", ⟨"sales", "B", [], [⟨"id", "string"⟩]⟩)]
  targetSchemas := [schema]
  linkages :=
    [⟨.landingZone, "cura", "A", .bronze, "cura", "T"⟩,
      ⟨.landingZone, "cura", "B", .bronze, "cura", "T"⟩]
  mappings := [mappings]

theorem compile : (compiler.compile spec "sales" .bronze).answer = .ok artifacts := by
  with_unfolding_all rfl

end TwoSources

end Medallion
