import Medallion.Proofs.Artifact.Reading
import Medallion.Proofs.Compilation.FileNames
import Medallion.Proofs.Store.Layout
import Medallion.Resolution

/-!
# A history of runs

Runs follow one another on the same store: each one reads the schemas of its source tables
from the artifacts that are there, and writes its own.  A run can fail by itself, and it can
be stopped from outside in front of any operation on files.

After any history that starts with an empty store, a tier is fed by the schema that was
written last for the tier below it (`resolver_afterRuns`).  The argument goes over the
writes:

* `Run.after_changes`: a run changes the files that it saves, and makes directories;
* `Run.lastWrite_writes`: it writes to the place of a schema if and only if it publishes
  that schema;
* `afterRuns_changes`, `lastWrite_writesOf`: the same for all runs together.
-/

namespace Medallion

open CompiledArtifacts

/-! ## Runs -/

/-- Where a run is stopped from outside. -/
structure Stop where
  /-- How many files it has saved. -/
  files : Nat
  /-- How many of the directories that lead to the next file it has made. -/
  directories : Nat

/-- Writes the artifacts into a store as far as a stop lets it. -/
def CompiledArtifacts.writeUntil (a : CompiledArtifacts) (stop : Stop) (store : Store)
    (tree : FileTree) : FileTree :=
  match saveAll store a.domain a.tier (a.entries.take stop.files) tree with
  | (.error _, tree) => tree
  | (.ok _, tree) =>
    let directory := store.tierDirectory a.domain a.tier
    (FileTree.createAbove (tree.start directory)
      (directory.steps.take stop.directories).reverse tree).2

/-- A run, as far as its store does not decide it.  The tiers feed each other as they do by
default, and the names of the domain and of the target tables are plain. -/
structure Run where
  rules : Rules
  settings : SourceSettings
  secrets : SecretStore
  introspector : Introspector
  output : OutputSettings
  audit : AuditProvider
  spec : Specification
  domain : String
  tier : Tier
  /-- Where the run is stopped, if it is. -/
  stop : Option Stop
  feeder_default : rules.feeder = Rules.defaultFeeder
  spec_plain : spec.PlainTargets
  domain_plain : Path.IsPlain domain

namespace Run

variable (run : Run) (store : Store) (tree : FileTree)

/-- The run resolves source schemas in the store that it writes to. -/
def compiler : Compiler where
  rules := run.rules
  output := run.output
  resolver :=
    SchemaSource.resolver ⟨run.rules, run.settings, store, run.secrets, run.introspector⟩ tree
  audit := run.audit

def job (run : Run) (schemas : SchemaCache) : Job :=
  ⟨run.domain, run.tier, run.rules, run.spec, schemas⟩

def compiled : Except MapError CompiledArtifacts :=
  ((run.compiler store tree).compile run.spec run.domain run.tier).answer

/-- The file tree after the run. -/
def after : FileTree :=
  match run.stop with
  | none => ((run.compiler store tree).run store run.spec run.domain run.tier tree).2
  | some stop =>
    match run.compiled store tree with
    | .error _ => tree
    | .ok a => a.writeUntil stop store tree

/-- The files that the run saves. -/
def saved : List (String × Json) :=
  match run.compiled store tree with
  | .error _ => []
  | .ok a =>
    let files := match run.stop with
      | none => a.entries
      | some stop => a.entries.take stop.files
    CompiledArtifacts.saved store run.domain run.tier files tree

/-- The target schemas whose files the run saves. -/
def published : List TargetSchema :=
  match run.compiled store tree with
  | .error _ => []
  | .ok a =>
    a.targetSchemas.filter fun schema =>
      schema.fileName run.tier ∈ (run.saved store tree).map (·.1)

/-- The schema that the run publishes for a table in a tier of a domain. -/
def publishes (domain : String) (tier : Tier) (table : String) : Option TargetSchema :=
  if run.domain = domain ∧ run.tier = tier then
    (run.published store tree).find? fun schema => schema.tableName = table
  else none

end Run

/-- The file tree after some runs. -/
def afterRuns (store : Store) : List Run → FileTree → FileTree
  | [], tree => tree
  | run :: runs, tree => afterRuns store runs (run.after store tree)

/-- Whether one of some runs has written a file of a tier of a domain. -/
def Wrote (store : Store) (domain : String) (tier : Tier) (name : String) :
    List Run → FileTree → Prop
  | [], _ => False
  | run :: runs, tree =>
    (run.domain = domain ∧ run.tier = tier ∧ name ∈ (run.saved store tree).map (·.1)) ∨
      Wrote store domain tier name runs (run.after store tree)

/-- The schema that was the last to be published for a table in a tier of a domain. -/
def lastPublished (store : Store) (domain : String) (tier : Tier) (table : String) :
    List Run → FileTree → Option TargetSchema
  | [], _ => none
  | run :: runs, tree =>
    (lastPublished store domain tier table runs (run.after store tree)).or
      (run.publishes store tree domain tier table)

/-- The path of the artifact with the schema of a table. -/
def Store.schemaPath (store : Store) (domain : String) (tier : Tier) (table : String) : Path :=
  store.artifactPath domain tier (schemaFileName tier table)

theorem isPlain_schemaFileName (tier : Tier) {table : String} (htable : Path.IsPlain table) :
    Path.IsPlain (schemaFileName tier table) :=
  ArtifactKind.isPlain_fileName .schema tier htable.no_slash htable.no_null

/-! ## One run -/

theorem Rules.defaultFeeder_ne {tier feeder : Tier}
    (hfeeder : defaultFeeder tier = some feeder) : feeder ≠ tier := by
  rintro rfl
  cases feeder <;> simp [defaultFeeder] at hfeeder

namespace Run

variable {run : Run} {store : Store} {tree : FileTree} {a : CompiledArtifacts}
  {file : String × Json}

theorem compiled_eq_ok (hcompiled : run.compiled store tree = .ok a) :
    ∃ schemas feeder, (run.job schemas).Yields run.output run.audit a ∧
      run.rules.feeder run.tier = some feeder ∧ feeder ≠ run.tier := by
  obtain ⟨schemas, -, hyields⟩ := compile_eq_ok.mp hcompiled
  obtain ⟨feeder, hfeeder, -⟩ := Linkage.ofJob_eq_ok.mp hyields.linkages
  refine ⟨schemas, feeder, hyields, hfeeder, ?_⟩
  dsimp only [compiler] at hfeeder
  rw [run.feeder_default] at hfeeder
  exact Rules.defaultFeeder_ne hfeeder

theorem compiled_of_saved (hfile : file ∈ run.saved store tree) :
    ∃ a, run.compiled store tree = .ok a ∧ file ∈ a.entries := by
  unfold saved at hfile
  cases hcompiled : run.compiled store tree with
  | error e =>
    rw [hcompiled] at hfile
    cases hfile
  | ok a =>
    rw [hcompiled] at hfile
    have hmem := List.IsPrefix.mem hfile (CompiledArtifacts.saved_prefix _ _ _ _ _)
    refine ⟨a, rfl, ?_⟩
    cases hstop : run.stop with
    | none =>
      rw [hstop] at hmem
      exact hmem
    | some stop =>
      rw [hstop] at hmem
      exact List.mem_of_mem_take hmem

theorem isPlain_saved (hfile : file ∈ run.saved store tree) : Path.IsPlain file.1 := by
  obtain ⟨a, hcompiled, hentry⟩ := compiled_of_saved hfile
  obtain ⟨schemas, feeder, hyields, hfeeder, -⟩ := compiled_eq_ok hcompiled
  exact hyields.isPlain_entry hfeeder run.spec_plain run.domain_plain hentry

theorem writeUntil_changes (a : CompiledArtifacts) (stop : Stop) (store : Store)
    (tree : FileTree) :
    FileTree.Changes (store.NewDirectory a.domain a.tier tree)
      (store.writes a.domain a.tier
        (CompiledArtifacts.saved store a.domain a.tier (a.entries.take stop.files) tree))
      tree (a.writeUntil stop store tree) := by
  have hsaved := saveAll_changes store a.domain a.tier (a.entries.take stop.files) tree
  unfold writeUntil
  rcases hall : saveAll store a.domain a.tier (a.entries.take stop.files) tree with
    ⟨_ | names, mid⟩ <;> rw [hall] at hsaved
  · exact hsaved
  · have hmade := FileTree.createAbove_changes (mid.start (store.tierDirectory a.domain a.tier))
      ((store.tierDirectory a.domain a.tier).steps.take stop.directories).reverse mid
    rw [List.reverse_reverse] at hmade
    have hplaces : ∀ at_, FileTree.OnWay (mid.start (store.tierDirectory a.domain a.tier))
        ((store.tierDirectory a.domain a.tier).steps.take stop.directories) at_ →
          store.NewDirectory a.domain a.tier tree at_ := by
      rintro at_ ⟨before, hbefore, rfl⟩
      rw [FileTree.start_congr hsaved.workingDirectory]
      exact ⟨before, hbefore.trans (List.take_prefix _ _), rfl⟩
    have hboth := hsaved.trans (hmade.mono hplaces)
    rwa [List.append_nil] at hboth

/-- A run changes the files that it saves, and makes directories for them. -/
theorem after_changes (run : Run) (store : Store) (tree : FileTree) :
    FileTree.Changes (store.ArtifactDirectory tree)
      (store.writes run.domain run.tier (run.saved store tree)) tree (run.after store tree) := by
  have hplaces : ∀ at_, store.NewDirectory run.domain run.tier tree at_ →
      store.ArtifactDirectory tree at_ :=
    fun at_ hat => ⟨run.domain, run.tier, run.domain_plain, hat⟩
  refine FileTree.Changes.mono ?_ hplaces
  cases hcompiled : run.compiled store tree with
  | error e =>
    have hafter : run.after store tree = tree := by
      unfold after
      cases run.stop with
      | none => exact congrArg (·.2) (run_of_compile_error hcompiled)
      | some stop => rw [hcompiled]
    have hsaved : run.saved store tree = [] := by rw [saved, hcompiled]
    rw [hafter, hsaved]
    exact .refl
  | ok a =>
    -- stopped or not, the run saves some of the files in front
    obtain ⟨schemas, -, hyields, -, -⟩ := compiled_eq_ok hcompiled
    have hdomain : a.domain = run.domain := hyields.domain
    have htier : a.tier = run.tier := hyields.tier
    cases hstop : run.stop with
    | none =>
      have hafter : run.after store tree =
          (saveAll store run.domain run.tier a.entries tree).2 := by
        rw [after, hstop]
        exact congrArg (·.2) (run_of_compile hcompiled)
      have hsaved : run.saved store tree =
          CompiledArtifacts.saved store run.domain run.tier a.entries tree := by
        rw [saved, hcompiled, hstop]
      rw [hafter, hsaved]
      exact saveAll_changes store run.domain run.tier a.entries tree
    | some stop =>
      have hafter : run.after store tree = a.writeUntil stop store tree := by
        rw [after, hstop, hcompiled]
      have hsaved : run.saved store tree =
          CompiledArtifacts.saved store run.domain run.tier (a.entries.take stop.files) tree := by
        rw [saved, hcompiled, hstop]
      rw [hafter, hsaved, ← hdomain, ← htier]
      exact writeUntil_changes a stop store tree

theorem isWrite_of_saved (run : Run) {w : Path × Content}
    (hw : w ∈ store.writes run.domain run.tier (run.saved store tree)) : store.IsWrite w := by
  obtain ⟨file, hfile, rfl⟩ := List.mem_map.mp hw
  exact ⟨run.domain, run.tier, file.1, run.domain_plain, isPlain_saved hfile, rfl⟩

/-! ## What a run publishes -/

variable {domain table : String} {tier : Tier} {schema : TargetSchema}

theorem mem_published :
    schema ∈ run.published store tree ↔
      ∃ a, run.compiled store tree = .ok a ∧ schema ∈ a.targetSchemas ∧
        ∃ file ∈ run.saved store tree, file.1 = schema.fileName run.tier := by
  unfold published
  cases run.compiled store tree with
  | error e => simp
  | ok a => simp [List.mem_filter]

theorem publishes_eq_some (hpublishes : run.publishes store tree domain tier table = some schema) :
    run.domain = domain ∧ run.tier = tier ∧ schema ∈ run.published store tree ∧
      schema.tableName = table := by
  unfold publishes at hpublishes
  split_ifs at hpublishes with hrun
  have htable := List.find?_some hpublishes
  rw [decide_eq_true_eq] at htable
  exact ⟨hrun.1, hrun.2, List.mem_of_find?_eq_some hpublishes, htable⟩

/-- A saved file with the name of a schema holds a schema that is published. -/
theorem published_of_saved (hfile : file ∈ run.saved store tree)
    (hname : file.1 = schemaFileName run.tier table) :
    ∃ schema ∈ run.published store tree, schema.tableName = table ∧ file.2 = schema.toJson := by
  obtain ⟨a, hcompiled, hentry⟩ := compiled_of_saved hfile
  obtain ⟨schemas, feeder, hyields, hfeeder, hne⟩ := compiled_eq_ok hcompiled
  obtain ⟨schema, hschema, htable, hjson⟩ := hyields.schema_of_entry hfeeder hne hentry hname
  refine ⟨schema, mem_published.mpr ⟨a, hcompiled, hschema, file, hfile, ?_⟩, htable, hjson⟩
  rw [hname, TargetSchema.fileName, htable]

theorem saved_of_published (hschema : schema ∈ run.published store tree) :
    ∃ file ∈ run.saved store tree, file.1 = schemaFileName run.tier schema.tableName := by
  obtain ⟨a, -, -, hsaved⟩ := mem_published.mp hschema
  exact hsaved

theorem domain_of_published (hschema : schema ∈ run.published store tree) :
    schema.domain = run.domain := by
  obtain ⟨a, hcompiled, hmem, -⟩ := mem_published.mp hschema
  obtain ⟨schemas, -, hyields, -, -⟩ := compiled_eq_ok hcompiled
  exact (hyields.ofTable_of_mem hmem).2

theorem published_unique {schema' : TargetSchema} (hschema : schema ∈ run.published store tree)
    (hschema' : schema' ∈ run.published store tree)
    (htable : schema.tableName = schema'.tableName) : schema = schema' := by
  obtain ⟨a, hcompiled, hmem, -⟩ := mem_published.mp hschema
  obtain ⟨a', hcompiled', hmem', -⟩ := mem_published.mp hschema'
  rw [hcompiled] at hcompiled'
  obtain rfl := Except.ok.inj hcompiled'
  obtain ⟨schemas, -, hyields, -, -⟩ := compiled_eq_ok hcompiled
  exact hyields.schema_unique hmem hmem' htable

/-- A run writes the file of a schema if and only if it publishes the schema: nothing else
that it writes has this name. -/
theorem publishes_ne_none_iff :
    run.publishes store tree domain tier table ≠ none ↔
      run.domain = domain ∧ run.tier = tier ∧
        schemaFileName tier table ∈ (run.saved store tree).map (·.1) := by
  constructor
  · intro hpublishes
    obtain ⟨schema, hpublishes⟩ := Option.ne_none_iff_exists'.mp hpublishes
    obtain ⟨rfl, rfl, hschema, rfl⟩ := publishes_eq_some hpublishes
    exact ⟨rfl, rfl, List.mem_map.mpr (saved_of_published hschema)⟩
  · rintro ⟨rfl, rfl, hname⟩ hpublishes
    obtain ⟨file, hfile, hname⟩ := List.mem_map.mp hname
    obtain ⟨schema, hschema, hsame, -⟩ := published_of_saved hfile hname
    rw [publishes, if_pos ⟨rfl, rfl⟩, List.find?_eq_none] at hpublishes
    exact hpublishes schema hschema (decide_eq_true hsame)

/-- What a run puts at the place of a schema is the schema that it publishes. -/
theorem lastWrite_writes (run : Run) (store : Store) (tree : FileTree)
    (hdomain : Path.IsPlain domain) (tier : Tier) (htable : Path.IsPlain table) :
    tree.lastWrite (store.writes run.domain run.tier (run.saved store tree))
        (tree.place (store.schemaPath domain tier table)) =
      (run.publishes store tree domain tier table).map fun s => Store.content s.toJson := by
  have hplain := isPlain_schemaFileName tier htable
  have hplace {file : String × Json} (hfile : file ∈ run.saved store tree) :
      tree.place (store.artifactPath run.domain run.tier file.1) =
          tree.place (store.schemaPath domain tier table) ↔
        run.domain = domain ∧ run.tier = tier ∧ file.1 = schemaFileName tier table :=
    Store.place_artifactPath_inj run.domain_plain (isPlain_saved hfile) hdomain hplain
  cases hpublishes : run.publishes store tree domain tier table with
  | some schema =>
    obtain ⟨rfl, rfl, hschema, rfl⟩ := publishes_eq_some hpublishes
    refine FileTree.lastWrite_eq_some ?_ ?_
    · obtain ⟨file, hfile, hname⟩ := saved_of_published hschema
      exact ⟨_, List.mem_map_of_mem hfile, (hplace hfile).mpr ⟨rfl, rfl, hname⟩⟩
    · intro w hw hat
      obtain ⟨file, hfile, rfl⟩ := List.mem_map.mp hw
      obtain ⟨-, -, hname⟩ := (hplace hfile).mp hat
      obtain ⟨schema', hschema', hsame, hjson⟩ := published_of_saved hfile hname
      dsimp only
      rw [hjson, published_unique hschema hschema' hsame.symm]
  | none =>
    refine FileTree.lastWrite_eq_none fun w hw hat => ?_
    obtain ⟨file, hfile, rfl⟩ := List.mem_map.mp hw
    obtain ⟨hd, ht, hname⟩ := (hplace hfile).mp hat
    refine publishes_ne_none_iff.mpr ⟨hd, ht, ?_⟩ hpublishes
    rw [← hname]
    exact List.mem_map_of_mem hfile

end Run

/-! ## All runs -/

section Runs

variable {store : Store} {domain table : String}

/-- The writes of some runs, one after the other. -/
def writesOf (store : Store) : List Run → FileTree → List (Path × Content)
  | [], _ => []
  | run :: runs, tree =>
    store.writes run.domain run.tier (run.saved store tree) ++
      writesOf store runs (run.after store tree)

theorem afterRuns_changes (store : Store) (runs : List Run) (tree : FileTree) :
    FileTree.Changes (store.ArtifactDirectory tree) (writesOf store runs tree) tree
      (afterRuns store runs tree) := by
  induction runs generalizing tree with
  | nil => exact .refl
  | cons run runs ih =>
    have hfirst := run.after_changes store tree
    have hrest := ih (run.after store tree)
    rw [Store.artifactDirectory_congr hfirst.workingDirectory] at hrest
    exact hfirst.trans hrest

theorem isWrite_of_mem_writesOf {runs : List Run} {tree : FileTree} {w : Path × Content}
    (hw : w ∈ writesOf store runs tree) : store.IsWrite w := by
  induction runs generalizing tree with
  | nil => cases hw
  | cons run runs ih =>
    rcases List.mem_append.mp hw with hw | hw
    · exact run.isWrite_of_saved hw
    · exact ih hw

/-- What the runs have put at the place of a schema is the schema that was the last to be
published. -/
theorem lastWrite_writesOf (store : Store) (hdomain : Path.IsPlain domain) (tier : Tier)
    (htable : Path.IsPlain table) (runs : List Run) (tree : FileTree) :
    tree.lastWrite (writesOf store runs tree)
        (tree.place (store.schemaPath domain tier table)) =
      (lastPublished store domain tier table runs tree).map fun s =>
        Store.content s.toJson := by
  induction runs generalizing tree with
  | nil => rfl
  | cons run runs ih =>
    have hwd := (run.after_changes store tree).workingDirectory
    have hrest := ih (run.after store tree)
    -- the places are the same as before the first run, since no run moves the working
    -- directory; what the later runs have put there counts first
    rw [FileTree.place_congr hwd, FileTree.lastWrite_congr hwd] at hrest
    rw [writesOf, FileTree.lastWrite_append, hrest,
      run.lastWrite_writes store tree hdomain tier htable, lastPublished]
    cases lastPublished store domain tier table runs (run.after store tree) with
    | none => rw [Option.map_none, Option.none_or, Option.none_or]
    | some schema => rfl

theorem lastPublished_ne_none_iff {tier : Tier} {runs : List Run} {tree : FileTree} :
    lastPublished store domain tier table runs tree ≠ none ↔
      Wrote store domain tier (schemaFileName tier table) runs tree := by
  induction runs generalizing tree with
  | nil => simp [lastPublished, Wrote]
  | cons run runs ih =>
    rw [lastPublished, Wrote, Ne, Option.or_eq_none_iff, not_and_or, ← Ne, ← Ne, ih,
      Run.publishes_ne_none_iff, or_comm]

theorem of_lastPublished {tier : Tier} {runs : List Run} {tree : FileTree}
    {schema : TargetSchema}
    (hlast : lastPublished store domain tier table runs tree = some schema) :
    schema.domain = domain ∧ schema.tableName = table := by
  induction runs generalizing tree with
  | nil => cases hlast
  | cons run runs ih =>
    rw [lastPublished, Option.or_eq_some_iff] at hlast
    rcases hlast with hlast | ⟨-, hlast⟩
    · exact ih hlast
    · obtain ⟨rfl, -, hschema, rfl⟩ := Run.publishes_eq_some hlast
      exact ⟨Run.domain_of_published hschema, rfl⟩

end Runs

/-- Starting from an empty store, after any runs, the schema that bronze or silver feeds to
the tier above is the one that was the last to be published for its table.  If its file was
never written, it is not found, or its path is one that the file system does not take. -/
theorem resolver_afterRuns {source : SchemaSource} {tree : FileTree} {upper lower : Tier}
    {domain table : String} (runs : List Run) (hempty : source.store.IsEmpty tree)
    (hdefault : source.rules.feeder = Rules.defaultFeeder)
    (hfeeder : Rules.defaultFeeder upper = some lower)
    (hlower : lower = .bronze ∨ lower = .silver) (hdomain : Path.IsPlain domain)
    (htable : Path.IsPlain table) :
    (Wrote source.store domain lower (schemaFileName lower table) runs tree →
      ∃ schema, lastPublished source.store domain lower table runs tree = some schema ∧
        source.resolver (afterRuns source.store runs tree) domain upper table =
          .ofExcept (.ok
            { domain := domain
              tableName := table
              extra := [("sort_columns", .texts schema.sortColumns),
                ("partition_columns", .texts schema.partitionColumns)]
              columns := schema.columns })) ∧
      (¬ Wrote source.store domain lower (schemaFileName lower table) runs tree →
        source.resolver (afterRuns source.store runs tree) domain upper table =
            .ofExcept (.error (.artifactNotFound (source.store.schemaPath domain lower table))) ∨
          ¬ (source.store.schemaPath domain lower table).Fits ∧ ∃ e : FileError,
            source.resolver (afterRuns source.store runs tree) domain upper table =
              .ofExcept (.error
                (.malformedArtifact (source.store.schemaPath domain lower table) e.message))) := by
  have hplain := isPlain_schemaFileName lower htable
  have hchanges := afterRuns_changes source.store runs tree
  have hwrites : ∀ w ∈ writesOf source.store runs tree, source.store.IsWrite w :=
    fun _ => isWrite_of_mem_writesOf
  have hput := lastWrite_writesOf source.store hdomain lower htable runs tree
  have hload : source.resolver (afterRuns source.store runs tree) domain upper table =
      .ofExcept (Store.load (afterRuns source.store runs tree)
        (source.store.schemaPath domain lower table) SourceSchema.ofDocument?) := by
    unfold SchemaSource.resolver
    rw [hdefault, hfeeder]
    rcases hlower with rfl | rfl <;> rfl
  rw [hload, ← lastPublished_ne_none_iff]
  constructor
  · intro hwrote
    obtain ⟨schema, hlast⟩ := Option.ne_none_iff_exists'.mp hwrote
    rw [hlast, Option.map_some] at hput
    have hread := Store.read_of_lastWrite hchanges hwrites hdomain hplain hput
    have hdocument := SourceSchema.ofDocument?_targetSchema schema
    refine ⟨schema, hlast, ?_⟩
    obtain ⟨rfl, rfl⟩ := of_lastPublished hlast
    rw [Store.schemaPath, Store.load_content hread schema.isWhole_toJson hdocument]
    rfl
  · intro hwrote
    rw [not_not.mp hwrote, Option.map_none] at hput
    rcases Store.load_of_no_write SourceSchema.ofDocument? hempty hchanges hwrites hdomain
      hplain hput with hfound | ⟨hfits, e, hfound⟩
    · rw [Store.schemaPath, hfound]
      exact .inl rfl
    · rw [Store.schemaPath, hfound]
      exact .inr ⟨hfits, e, rfl⟩

/-! ## A history of two runs -/

namespace BronzeThenSilver

def source : SchemaSource where
  rules := .default
  settings := ⟨some "vault", some "connection"⟩
  store := ⟨⟨"config"⟩⟩
  secrets _ _ := .ok "server"
  introspector _ _ := .ok [⟨"id", "int"⟩]

/-- Makes `T` from a table of the database. -/
def bronze : Run where
  rules := source.rules
  settings := source.settings
  secrets := source.secrets
  introspector := source.introspector
  output := .default
  audit _ := .ok []
  spec := .ofTable ⟨Header.all, [[.text "A", .text "id", .text "T", .text "X"]]⟩
  domain := "sales"
  tier := .bronze
  stop := none
  feeder_default := rfl
  spec_plain := ⟨by decide +kernel, by decide +kernel⟩
  domain_plain := by decide

/-- Makes `U` from `T`, and is stopped behind its second file. -/
def silver : Run :=
  { bronze with
    spec := .ofTable ⟨Header.all, [[.text "T", .text "X", .text "U", .text "Y"]]⟩
    tier := .silver
    stop := some ⟨2, 0⟩
    spec_plain := ⟨by decide +kernel, by decide +kernel⟩ }

def before : FileTree := .empty "work"

theorem isEmpty : source.store.IsEmpty before := by
  have hroot : before.resolve source.store.root = .ok ["work", "config"] := by decide
  refine Store.isEmpty_of_resolve hroot (by decide) ?_
  rintro at_ ⟨⟨names, rfl⟩, -⟩
  rfl

theorem bronze_saved :
    (bronze.saved source.store before).map (·.1) =
      ["bronze_target_tables_sales.json", "landing-zone_schema_T.json", "bronze_schema_T.json",
        "bronze_pipeline_T.json", "bronze_map_T.json"] := by
  decide +kernel

theorem wrote_iff {name : String} :
    Wrote source.store "sales" .bronze name [bronze, silver] before ↔
      name ∈ ["bronze_target_tables_sales.json", "landing-zone_schema_T.json",
        "bronze_schema_T.json", "bronze_pipeline_T.json", "bronze_map_T.json"] := by
  rw [← bronze_saved]
  constructor
  · rintro (⟨-, -, hname⟩ | ⟨-, htier, -⟩ | hnever)
    · exact hname
    · cases htier
    · exact hnever.elim
  · exact fun hname => .inl ⟨rfl, rfl, hname⟩

end BronzeThenSilver

open BronzeThenSilver in
/-- Silver is fed with the schema of `T`.  There is no schema of `U` in bronze. -/
theorem resolver_afterRuns_bronzeThenSilver :
    (∃ schema,
      lastPublished source.store "sales" .bronze "T" [bronze, silver] before = some schema ∧
        source.resolver (afterRuns source.store [bronze, silver] before) "sales" .silver "T" =
          .ofExcept (.ok
            { domain := "sales"
              tableName := "T"
              extra := [("sort_columns", .texts schema.sortColumns),
                ("partition_columns", .texts schema.partitionColumns)]
              columns := schema.columns })) ∧
      source.resolver (afterRuns source.store [bronze, silver] before) "sales" .silver "U" =
        .ofExcept (.error (.artifactNotFound
          ⟨"config/domains/sales/bronze/bronze_schema_U.json"⟩)) := by
  have hfeeder : Rules.defaultFeeder .silver = some .bronze := rfl
  constructor
  · have hplain : Path.IsPlain "T" := by decide
    have hwrote : Wrote source.store "sales" .bronze (schemaFileName .bronze "T")
        [bronze, silver] before := wrote_iff.mpr (by decide)
    exact (resolver_afterRuns [bronze, silver] isEmpty rfl hfeeder (.inl rfl) (by decide)
      hplain).1 hwrote
  · have hplain : Path.IsPlain "U" := by decide
    have hnever : ¬ Wrote source.store "sales" .bronze (schemaFileName .bronze "U")
        [bronze, silver] before := mt wrote_iff.mp (by decide)
    rcases (resolver_afterRuns [bronze, silver] isEmpty rfl hfeeder (.inl rfl) (by decide)
      hplain).2 hnever with hfound | ⟨hfits, -⟩
    · exact hfound
    · exact absurd ⟨by decide, by decide, by decide⟩ hfits

end Medallion
