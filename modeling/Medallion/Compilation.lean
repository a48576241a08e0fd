import Medallion.Artifact.Encoding
import Medallion.Store
import Medallion.Validation

/-!
# Compilation

`compile` checks a specification and computes all artifacts of one tier of a domain before
any of them is written.  Next to those that the generators make, it echoes the schemas of
the source tables, so that each tier has the schemas that it reads beside those that it
writes.  An echo is named for the first target table that the source feeds.

`CompiledArtifacts.entries` are the files in the order in which they are written: the list
of target tables, the echoes, the target schemas, the linkages, the mapping sets.
`CompiledArtifacts.write` saves them one after the other and stops at the first failure;
what was written before it stays.  `Compiler.run` compiles and writes.
-/

namespace Medallion

/-- The artifacts of one tier of a domain. -/
structure CompiledArtifacts where
  domain : String
  tier : Tier
  targetTables : TargetTables
  /-- The echoed source schemas, by file name. -/
  sourceSchemas : List (String × SourceSchema)
  targetSchemas : List TargetSchema
  linkages : List Linkage
  mappings : List MappingSet

/-- What is needed to compile any specification. -/
structure Compiler where
  rules : Rules
  output : OutputSettings
  resolver : Resolver
  audit : AuditProvider

/-- The first target table that the rows of a source table name. -/
def Specification.firstTarget? (spec : Specification) (source : String) : Option String :=
  (spec.rowsOfSource source).findSome? (·.targetTable)

/-- The form in which the schema of a source table is echoed: what lands from the database
lands as strings. -/
def SourceSchema.echo (feeder : Tier) (schema : SourceSchema) : SourceSchema :=
  if feeder = .landingZone then schema.allStrings else schema

/-- The echoed schemas of a job's source tables, in the order of the specification. -/
def Job.echoes (job : Job) : List (String × SourceSchema) :=
  match job.rules.feeder job.tier with
  | none => []
  | some feeder =>
    job.spec.sourceTables.filterMap fun table => do
      let schema ← job.schemas.schema? table
      let target ← job.spec.firstTarget? table
      some (schemaFileName feeder target, schema.echo feeder)

/-- The artifacts of a job whose specification is fit for its tier. -/
def Job.artifacts (job : Job) (output : OutputSettings) (audit : AuditProvider) :
    Except MapError CompiledArtifacts := do
  let schemas ← TargetSchema.ofJob job audit
  let linkages ← Linkage.ofJob job output.tablePath
  let mappings ← MappingSet.ofJob job
  .ok
    { domain := job.domain
      tier := job.tier
      targetTables := .ofJob job output
      sourceSchemas := job.echoes
      targetSchemas := schemas
      linkages := linkages
      mappings := mappings }

/-- Checks a specification and computes its artifacts. -/
def Compiler.compile (c : Compiler) (spec : Specification) (domain : String) (tier : Tier) :
    Consult CompiledArtifacts := do
  let validated ← validate spec domain tier c.rules c.resolver
  let job : Job := ⟨domain, tier, c.rules, validated.spec, validated.schemas⟩
  Consult.ofExcept (job.artifacts c.output c.audit)

namespace CompiledArtifacts

/-- The files of the artifacts, with what they hold, in the order of writing. -/
def entries (a : CompiledArtifacts) : List (String × Json) :=
  (a.targetTables.fileName a.domain, a.targetTables.toJson) ::
    a.sourceSchemas.map (fun (name, s) => (name, s.toJson)) ++
    a.targetSchemas.map (fun s => (s.fileName a.tier, s.toJson)) ++
    a.linkages.map (fun l => (l.fileName, l.toJson)) ++
    a.mappings.map (fun m => (m.fileName, m.toJson))

/-- Saves some files one after the other, up to the first failure. -/
def saveAll (store : Store) (domain : String) (tier : Tier) :
    List (String × Json) → FileTree → Saved (List String)
  | [], tree => (.ok [], tree)
  | (name, json) :: rest, tree =>
    match store.save domain tier name json tree with
    | (.error e, tree) => (.error e, tree)
    | (.ok _, tree) =>
      match saveAll store domain tier rest tree with
      | (.error e, tree) => (.error e, tree)
      | (.ok names, tree) => (.ok (name :: names), tree)

/-- Writes the artifacts into a store; the answer has the names of the files. -/
def write (a : CompiledArtifacts) (store : Store) (tree : FileTree) : Saved (List String) :=
  saveAll store a.domain a.tier a.entries tree

end CompiledArtifacts

/-- Compiles a specification and writes its artifacts into a store; the answer has the names
of the files. -/
def Compiler.run (c : Compiler) (store : Store) (spec : Specification) (domain : String)
    (tier : Tier) (tree : FileTree) : Saved (List String) :=
  match (c.compile spec domain tier).answer with
  | .error e => (.error e, tree)
  | .ok artifacts => artifacts.write store tree

end Medallion
