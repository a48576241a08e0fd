import Medallion.Proofs.Artifact.Reading
import Medallion.Proofs.Compilation.FileNames
import Medallion.Proofs.Store.Saving
import Mathlib.Data.Prod.Basic

/-!
# Files that are lost

Target schemas and mapping sets have one file for each target table.  But a linkage is named
for its target table alone, and an echoed schema for the first target table that its source
feeds.  So the names of the files of a run are distinct if and only if no target table is
fed by two source tables (`Specification.SingleSourced`), and otherwise a linkage is lost: a
later file takes its place (`written_files_distinct_iff`).
-/

namespace Medallion

open CompiledArtifacts

/-- Whether no target table is fed by two source tables. -/
def Specification.SingleSourced (spec : Specification) : Prop :=
  ∀ row ∈ spec.rows, ∀ row' ∈ spec.rows, ∀ source source' target,
    row.sourceTable = some source → row.targetTable = some target →
      row'.sourceTable = some source' → row'.targetTable = some target → source = source'

/-! ## Distinct labels -/

section Labels

variable {spec : Specification}

theorem Linkage.nodup_pairs (rows : List MappingRow) : (pairs rows).Nodup :=
  nodup_eraseDups _

theorem Specification.singleSourced_iff :
    spec.SingleSourced ↔ ((Linkage.pairs spec.rows).map (·.2)).Nodup := by
  rw [List.nodup_map_iff_inj_on (Linkage.nodup_pairs _)]
  constructor
  · rintro hsingle ⟨source, target⟩ hpair ⟨source', target'⟩ hpair' htarget
    obtain rfl : target = target' := htarget
    obtain ⟨row, hrow, hsource, htarget⟩ := Linkage.mem_pairs.mp hpair
    obtain ⟨row', hrow', hsource', htarget'⟩ := Linkage.mem_pairs.mp hpair'
    rw [hsingle row hrow row' hrow' source source' target hsource htarget hsource' htarget']
  · intro hinj row hrow row' hrow' source source' target hsource htarget hsource' htarget'
    have hpair := Linkage.mem_pairs.mpr ⟨row, hrow, hsource, htarget⟩
    have hpair' := Linkage.mem_pairs.mpr ⟨row', hrow', hsource', htarget'⟩
    exact congrArg (·.1) (hinj _ hpair _ hpair' rfl)

theorem Job.nodup_echoTargets {job : Job} (hsingle : job.spec.SingleSourced) :
    job.echoTargets.Nodup := by
  refine List.Nodup.filterMap (fun source source' target h h' => ?_)
    job.spec.nodup_sourceTables
  obtain ⟨_, _, hfirst⟩ := Option.bind_eq_some_iff.mp h
  obtain ⟨_, _, hfirst'⟩ := Option.bind_eq_some_iff.mp h'
  obtain ⟨row, hrow, hsource, htarget⟩ := Specification.exists_row_of_firstTarget? hfirst
  obtain ⟨row', hrow', hsource', htarget'⟩ := Specification.exists_row_of_firstTarget? hfirst'
  exact hsingle row hrow row' hrow' source source' target hsource htarget hsource' htarget'

/-- Only the linkages can have a label twice without the echoed schemas. -/
theorem Job.nodup_labels_iff {job : Job} {feeder : Tier} (hfeeder : feeder ≠ job.tier) :
    (job.labels feeder).Nodup ↔ job.spec.SingleSourced := by
  have hlabel (kind : ArtifactKind) (tier : Tier) :
      Function.Injective fun name : String => ((kind, tier, name) : FileLabel) :=
    fun name name' h => (Prod.mk.inj (Prod.mk.inj h).2).2
  have htargets (kind : ArtifactKind) (tier : Tier) :
      (job.spec.targetTables.map fun table => ((kind, tier, table) : FileLabel)).Nodup :=
    job.spec.nodup_targetTables.map (hlabel kind tier)
  have hlinkages : ((Linkage.pairs job.spec.rows).map fun pair =>
      ((.linkage, job.tier, pair.2) : FileLabel)).Nodup ↔ job.spec.SingleSourced := by
    rw [Specification.singleSourced_iff, ← List.nodup_map_iff (hlabel .linkage job.tier),
      List.map_map]
    rfl
  constructor
  · -- the linkages alone give it
    intro hnodup
    rw [← hlinkages]
    refine hnodup.sublist ?_
    unfold labels
    exact ((List.sublist_append_right _ _).trans (List.sublist_append_left _ _))
  · intro hsingle
    have hechoes : (job.echoTargets.map fun table =>
        ((.schema, feeder, table) : FileLabel)).Nodup :=
      (job.nodup_echoTargets hsingle).map (hlabel .schema feeder)
    unfold labels
    refine List.nodup_append'.mpr ⟨List.nodup_append'.mpr ⟨List.nodup_append'.mpr
      ⟨List.nodup_cons.mpr ⟨by simp, hechoes⟩, htargets _ _, ?_⟩, hlinkages.mpr hsingle, ?_⟩,
      htargets _ _, ?_⟩
    · intro label hleft hright
      grind
    · intro label hleft hright
      grind
    · intro label hleft hright
      grind

end Labels

/-! ## Written files -/

/-- Whether every artifact is found under its own name with its own content. -/
def CompiledArtifacts.ReadBack (a : CompiledArtifacts) (store : Store) (tree : FileTree) :
    Prop :=
  ∀ file ∈ a.entries,
    tree.read (store.artifactPath a.domain a.tier file.1) = .ok (Store.content file.2)

section Written

variable {c : Compiler} {spec : Specification} {domain : String} {tier : Tier}
  {a : CompiledArtifacts} {store : Store} {tree tree' : FileTree} {names : List String}

theorem write_changes (hwrite : a.write store tree = (.ok names, tree')) :
    names = a.entries.map (·.1) ∧
      FileTree.Changes (store.NewDirectory a.domain a.tier tree)
        (store.writes a.domain a.tier a.entries) tree tree' :=
  ⟨(saveAll_eq_ok hwrite).1, changes_of_saveAll hwrite⟩

theorem readBack_iff (hwrite : a.write store tree = (.ok names, tree')) :
    a.ReadBack store tree' ↔
      ∀ file ∈ a.entries, ∀ file' ∈ a.entries,
        tree.place (store.artifactPath a.domain a.tier file.1) =
            tree.place (store.artifactPath a.domain a.tier file'.1) →
          Store.content file.2 = Store.content file'.2 := by
  have hback := (write_changes hwrite).2.read_back_iff
  simp only [Store.writes, List.forall_mem_map] at hback
  exact hback

theorem linkage_mem_entries {l : Linkage} (hl : l ∈ a.linkages) :
    (l.fileName, l.toJson) ∈ a.entries := by
  have hmem : (l.fileName, l.toJson) ∈ a.linkages.map fun l => (l.fileName, l.toJson) :=
    List.mem_map_of_mem hl
  exact List.mem_append_left _ (List.mem_append_right _ hmem)

/-- Two linkages to the same target table have the same file name and different contents. -/
theorem singleSourced_of_readBack (hcompile : (c.compile spec domain tier).answer = .ok a)
    (hwrite : a.write store tree = (.ok names, tree')) (hback : a.ReadBack store tree') :
    spec.SingleSourced := by
  obtain ⟨schemas, -, hyields⟩ := compile_eq_ok.mp hcompile
  obtain ⟨feeder, -, hlinkages⟩ := Linkage.ofJob_eq_ok.mp hyields.linkages
  have hentry {source target : String}
      (hpair : (source, target) ∈ Linkage.pairs spec.rows) :
      ∃ l : Linkage, l.sourceTable = source ∧ l.fileName = ArtifactKind.linkage.fileName tier target ∧
        (l.fileName, l.toJson) ∈ a.entries := by
    refine ⟨⟨feeder, c.output.tablePath, source, tier, c.output.tablePath, target⟩, rfl, rfl,
      linkage_mem_entries ?_⟩
    rw [hlinkages]
    exact List.mem_map_of_mem hpair
  intro row hrow row' hrow' source source' target hsource htarget hsource' htarget'
  obtain ⟨l, rfl, hname, hl⟩ :=
    hentry (Linkage.mem_pairs.mpr ⟨row, hrow, hsource, htarget⟩)
  obtain ⟨l', rfl, hname', hl'⟩ :=
    hentry (Linkage.mem_pairs.mpr ⟨row', hrow', hsource', htarget'⟩)
  have hsame := (readBack_iff hwrite).mp hback _ hl _ hl'
  rw [hname, hname'] at hsame
  exact Linkage.sourceTable_of_content (hsame rfl)

theorem Job.Yields.nodup_names_iff {job : Job} {output : OutputSettings} {audit : AuditProvider}
    (hyields : job.Yields output audit a) (hfeeder : job.rules.feeder job.tier ≠ some job.tier) :
    (a.entries.map (·.1)).Nodup ↔ job.spec.SingleSourced := by
  obtain ⟨feeder, hsome, hne⟩ := hyields.exists_feeder hfeeder
  rw [hyields.entries_names hsome, List.nodup_map_iff FileLabel.fileName_injective,
    Job.nodup_labels_iff hne]

/-- A file that was written and has no slash in its name stands in the directory of the
tier under its name. -/
theorem place_of_written {job : Job} {output : OutputSettings} {audit : AuditProvider}
    (hyields : job.Yields output audit a) (hwrite : a.write store tree = (.ok names, tree'))
    {file : String × Json} (hfile : file ∈ a.entries) (hslash : '/' ∉ file.1.toList) :
    tree.place (store.artifactPath a.domain a.tier file.1) =
      tree.place (store.tierDirectory a.domain a.tier) ++ [file.1] := by
  have hreached := (write_changes hwrite).2.reached _ (List.mem_map_of_mem hfile)
  have hnull : '\x00' ∉ file.1.toList := fun h =>
    FileTree.no_null_of_resolve hreached (Path.mem_join _ h)
  obtain ⟨feeder, hsome, -⟩ := Linkage.ofJob_eq_ok.mp hyields.linkages
  have hname : file.1 ∈ a.entries.map (·.1) := List.mem_map_of_mem hfile
  rw [hyields.entries_names hsome] at hname
  obtain ⟨⟨kind, tier, name⟩, -, heq⟩ := List.mem_map.mp hname
  rw [← heq, FileLabel.fileName, ArtifactKind.mem_fileName (.inl rfl)] at hslash
  rw [← heq, FileLabel.fileName, ArtifactKind.mem_fileName (.inr rfl)] at hnull
  have hplain := ArtifactKind.isPlain_fileName kind tier hslash hnull
  rw [← heq]
  exact FileTree.place_join_plain tree _ hplain

/-- A run that succeeds names all its files.  The names are distinct if and only if no target
table is fed by two source tables.  Every artifact can be read back if and only if those that
stand at the same place have the same content; with two sources for one target table they do
not, and otherwise they do unless a name with a slash leads to the place of another one. -/
theorem written_files_distinct_iff (hfeeder : c.rules.feeder tier ≠ some tier)
    (hcompile : (c.compile spec domain tier).answer = .ok a)
    (hwrite : a.write store tree = (.ok names, tree')) :
    names = a.entries.map (·.1) ∧ (names.Nodup ↔ spec.SingleSourced) ∧
      (a.ReadBack store tree' ↔
        ∀ file ∈ a.entries, ∀ file' ∈ a.entries,
          tree.place (store.artifactPath a.domain a.tier file.1) =
              tree.place (store.artifactPath a.domain a.tier file'.1) →
            Store.content file.2 = Store.content file'.2) ∧
      (a.ReadBack store tree' → spec.SingleSourced) ∧
      ((∀ name ∈ names, '/' ∉ name.toList) → spec.SingleSourced →
        a.ReadBack store tree') := by
  obtain ⟨schemas, -, hyields⟩ := compile_eq_ok.mp hcompile
  obtain ⟨rfl, -⟩ := write_changes hwrite
  have hnodup := hyields.nodup_names_iff hfeeder
  refine ⟨rfl, hnodup, readBack_iff hwrite, singleSourced_of_readBack hcompile hwrite,
    fun hslash hsingle => ?_⟩
  rw [readBack_iff hwrite]
  intro file hfile file' hfile' hplace
  rw [place_of_written hyields hwrite hfile (hslash _ (List.mem_map_of_mem hfile)),
    place_of_written hyields hwrite hfile' (hslash _ (List.mem_map_of_mem hfile'))] at hplace
  have hname : file.1 = file'.1 := by
    simpa using List.append_cancel_left hplace
  rw [List.inj_on_of_nodup_map (hnodup.mpr hsingle) hfile hfile' hname]

end Written

/-! ## A run that loses a linkage -/

namespace TwoSources

def store : Store := ⟨⟨"config"⟩⟩

def before : FileTree := .empty "work"

def written : Saved (List String) := artifacts.write store before

def fileNames : List String :=
  ["bronze_target_tables_sales.json", "landing-zone_schema_T.json",
    "landing-zone_schema_T.json", "bronze_schema_T.json", "bronze_pipeline_T.json",
    "bronze_pipeline_T.json", "bronze_map_T.json"]

theorem written_eq : written = (.ok fileNames, written.2) := by
  have hnames : written.1 = .ok fileNames := by decide +kernel
  exact Prod.fst_eq_iff.mp hnames

end TwoSources

theorem written_files_distinct_iff_twoSources :
    TwoSources.fileNames = TwoSources.artifacts.entries.map (·.1) ∧
      (TwoSources.fileNames.Nodup ↔ TwoSources.spec.SingleSourced) ∧
      (TwoSources.artifacts.ReadBack TwoSources.store TwoSources.written.2 ↔
        ∀ file ∈ TwoSources.artifacts.entries, ∀ file' ∈ TwoSources.artifacts.entries,
          TwoSources.before.place (TwoSources.store.artifactPath "sales" .bronze file.1) =
              TwoSources.before.place (TwoSources.store.artifactPath "sales" .bronze file'.1) →
            Store.content file.2 = Store.content file'.2) ∧
      (TwoSources.artifacts.ReadBack TwoSources.store TwoSources.written.2 →
        TwoSources.spec.SingleSourced) ∧
      ((∀ name ∈ TwoSources.fileNames, '/' ∉ name.toList) → TwoSources.spec.SingleSourced →
        TwoSources.artifacts.ReadBack TwoSources.store TwoSources.written.2) :=
  written_files_distinct_iff (by decide) TwoSources.compile TwoSources.written_eq

/-- With two source tables for one target table two files have the same name, and not every
artifact can be read back. -/
theorem written_files_collide :
    (TwoSources.compiler.compile TwoSources.spec "sales" .bronze).answer =
        .ok TwoSources.artifacts ∧
      TwoSources.written = (.ok TwoSources.fileNames, TwoSources.written.2) ∧
      ¬ TwoSources.fileNames.Nodup ∧
      ¬ TwoSources.artifacts.ReadBack TwoSources.store TwoSources.written.2 := by
  refine ⟨TwoSources.compile, TwoSources.written_eq, by decide, fun hback => ?_⟩
  have hsingle := singleSourced_of_readBack TwoSources.compile TwoSources.written_eq hback
  rw [Specification.singleSourced_iff] at hsingle
  exact absurd hsingle (by decide +kernel)

end Medallion
