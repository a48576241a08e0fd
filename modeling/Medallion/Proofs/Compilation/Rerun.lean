import Medallion.Proofs.Compilation.Feeding
import Medallion.Proofs.Store.Resaving

/-!
# Running again

A run writes files of its own tier, and it is fed by the files of another one.  So with plain
names it does not touch what it was fed from (`resolver_of_saveAll`), and running it again on
what it has left compiles the same artifacts.  Saving these over themselves changes nothing.

Hence a run that has succeeded succeeds again, with the same names of files, and leaves the
file tree as it is (`run_again`).
-/

namespace Medallion

open CompiledArtifacts

section Runs

variable {source : SchemaSource} {output : OutputSettings} {audit : AuditProvider}
  {spec : Specification} {domain : String} {tier : Tier} {tree tree' : FileTree}
  {names : List String}

/-- No artifact stands where the schema of a table of another tier stands. -/
theorem lastWrite_schemaPath_eq_none {store : Store} {files : List (String × Json)}
    {lower : Tier} {table : String} (hfiles : ∀ file ∈ files, Path.IsPlain file.1)
    (hdomain : Path.IsPlain domain) (htable : Path.IsPlain table) (hne : lower ≠ tier) :
    tree.lastWrite (store.writes domain tier files)
      (tree.place (store.schemaPath domain lower table)) = none := by
  refine FileTree.lastWrite_eq_none fun w hw hplace => hne ?_
  obtain ⟨file, hfile, rfl⟩ := List.mem_map.mp hw
  have hsame := (Store.place_artifactPath_inj hdomain (hfiles file hfile) hdomain
    (isPlain_schemaFileName lower htable)).mp hplace
  exact hsame.2.1.symm

/-- A run that has written its artifacts is fed like before. -/
theorem resolver_of_saveAll {a : CompiledArtifacts} {table : String}
    (hdefault : source.rules.feeder = Rules.defaultFeeder) (hdomain : Path.IsPlain domain)
    (hspec : spec.PlainTargets) (htable : table ∈ spec.sourceTables)
    (hplain : Path.IsPlain table)
    (hcompile : ((source.compiler output audit tree).compile spec domain tier).answer = .ok a)
    (hsaved : saveAll source.store domain tier a.entries tree = (.ok names, tree')) :
    source.resolver tree' domain tier table = source.resolver tree domain tier table := by
  obtain ⟨schemas, -, hyields⟩ := compile_eq_ok.mp hcompile
  obtain ⟨feeder, hfeeder, -⟩ := Linkage.ofJob_eq_ok.mp hyields.linkages
  have hfiles (file : String × Json) (hfile : file ∈ a.entries) : Path.IsPlain file.1 :=
    hyields.isPlain_entry hfeeder hspec hdomain hfile
  have hchanges := changes_of_saveAll hsaved
  refine SchemaSource.resolver_congr hdefault fun lower hlower hartifact => ?_
  -- the artifact was there before the run, or the specification would not have compiled
  obtain ⟨content, hread⟩ :=
    SchemaSource.exists_read_of_compile hdefault hlower hartifact hcompile htable
  have hnone : tree.lastWrite (source.store.writes domain tier a.entries)
      (tree.place (source.store.schemaPath domain lower table)) = none :=
    lastWrite_schemaPath_eq_none hfiles hdomain hplain (Rules.defaultFeeder_ne hlower)
  rw [hread, hchanges.read_of_not_written hread hnone]

/-- A run that succeeds can be run again on what it has left: it succeeds, has the same names
of files, and leaves every file as it is. -/
theorem run_again (hdefault : source.rules.feeder = Rules.defaultFeeder)
    (hdomain : Path.IsPlain domain) (hspec : spec.PlainTargets)
    (hsources : ∀ table ∈ spec.sourceTables, Path.IsPlain table)
    (hrun : (source.compiler output audit tree).run source.store spec domain tier tree =
      (.ok names, tree')) :
    (source.compiler output audit tree').run source.store spec domain tier tree' =
      (.ok names, tree') := by
  cases hcompile : ((source.compiler output audit tree).compile spec domain tier).answer with
  | error e =>
    rw [run_of_compile_error hcompile] at hrun
    cases hrun
  | ok a =>
    rw [run_of_compile hcompile] at hrun
    have hsame : (source.compiler output audit tree').compile spec domain tier =
        (source.compiler output audit tree).compile spec domain tier :=
      Compiler.compile_congr rfl rfl rfl fun table htable =>
        resolver_of_saveAll hdefault hdomain hspec htable (hsources table htable) hcompile hrun
    have hcompile' :
        ((source.compiler output audit tree').compile spec domain tier).answer = .ok a := by
      rw [hsame, hcompile]
    rw [run_of_compile hcompile', saveAll_again hrun]

end Runs

/-! ## Silver, run twice -/

namespace BronzeThenSilver

def runSilver : Saved (List String) :=
  (compiler runBronze.2).run source.store silver.spec "sales" .silver runBronze.2

def silverNames : List String :=
  ["silver_target_tables_sales.json", "bronze_schema_U.json", "silver_schema_U.json",
    "silver_pipeline_U.json", "silver_map_U.json"]

theorem runSilver_eq : runSilver = (.ok silverNames, runSilver.2) := by
  have hwrite : runSilver = silverArtifacts.write source.store runBronze.2 := by
    rw [runSilver, Compiler.run, compile_silver]
  have hnames : (silverArtifacts.write source.store runBronze.2).1 = .ok silverNames := by
    decide +kernel
  rw [← hwrite] at hnames
  exact Prod.fst_eq_iff.mp hnames

end BronzeThenSilver

open BronzeThenSilver in
theorem run_again_silver :
    (compiler runSilver.2).run source.store silver.spec "sales" .silver runSilver.2 =
      (.ok silverNames, runSilver.2) :=
  run_again rfl (by decide) silver.spec_plain (by decide +kernel) runSilver_eq

end Medallion
