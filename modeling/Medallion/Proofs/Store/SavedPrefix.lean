import Medallion.Proofs.Compilation.Collisions
import Medallion.Proofs.Store.Resaving

/-!
# A prefix of the files is saved

`CompiledArtifacts.Saves` is a run of saves that succeed, one after the other, and
`CompiledArtifacts.WriteOutcome` says how the writing of some artifacts can go: all files are
saved in their order, or those in front of the first one that cannot be saved.  The order and
what the files hold are read off the artifacts (`CompiledArtifacts.filesInOrder`).  The outcome
is always of this kind (`write_saves_prefix`), and the files that were saved are the only
change to the files of the tree:

* for any names, a place holds what the last file that was saved to it put there
  (`FileTree.Changes`);
* for plain names, every file that was saved is in the directory of the tier under its name,
  with the last of the contents that were saved under this name, and nothing else has
  changed (`Store.SaveEffect`).

A save that fails may have made the directory of the tier, or some of those above it.  After
a save that succeeded they are there, so then the failure changes nothing at all
(`tree_of_failed_save`).

What stands in a file when its own write is interrupted is left open: a file tree has no
such state.
-/

namespace Medallion

/-! ## The last file of a name -/

/-- The last of some files under a name has this content. -/
def Store.IsLast (files : List (String × Json)) (name : String) (json : Json) : Prop :=
  ∃ before after, files = before ++ (name, json) :: after ∧ ∀ file ∈ after, file.1 ≠ name

theorem Store.exists_isLast {files : List (String × Json)} {name : String}
    (hname : name ∈ files.map (·.1)) : ∃ json, IsLast files name json := by
  induction files with
  | nil => simp at hname
  | cons file rest ih =>
    by_cases hlater : name ∈ rest.map (·.1)
    · obtain ⟨json, before, after, rfl, hlast⟩ := ih hlater
      exact ⟨json, file :: before, after, rfl, hlast⟩
    · have hfirst : name = file.1 := by
        rw [List.map_cons, List.mem_cons] at hname
        exact hname.resolve_right hlater
      subst hfirst
      refine ⟨file.2, [], rest, rfl, fun other hother heq => hlater ?_⟩
      rw [← heq]
      exact List.mem_map_of_mem hother

/-! ## What a run of saves does -/

namespace Store

variable {store : Store} {domain : String} {tier : Tier} {files : List (String × Json)}
  {tree tree' : FileTree}

/-- Some files have been saved under plain names, and nothing else has been changed. -/
structure SaveEffect (store : Store) (domain : String) (tier : Tier)
    (files : List (String × Json)) (tree tree' : FileTree) : Prop where
  /-- Each name reads as the last of the files of this name. -/
  stored : ∀ file ∈ files, ∃ json, IsLast files file.1 json ∧
    tree'.read (store.artifactPath domain tier file.1) = .ok (content json)
  /-- Every file elsewhere is as before. -/
  frame : ∀ at_, (∀ file ∈ files,
      at_ ≠ tree.place store.root ++ ["domains", domain, tier.name, file.1]) →
    tree'.fileAt at_ = tree.fileAt at_
  /-- No directory is lost. -/
  kept : ∀ at_, tree.lookup at_ = some .directory → tree'.lookup at_ = some .directory
  /-- Directories are made only on the way to that of the tier. -/
  made : ∀ at_, tree'.lookup at_ = some .directory → tree.lookup at_ = some .directory ∨
    FileTree.OnWay (tree.start store.root) (store.root.steps ++ ["domains", domain, tier.name]) at_

/-- Files with the same plain name, and only those, are saved to the same place. -/
theorem place_eq_iff {name name' : String} (hname : Path.IsPlain name)
    (hname' : Path.IsPlain name') :
    tree.place (store.artifactPath domain tier name) =
      tree.place (store.artifactPath domain tier name') ↔ name = name' := by
  constructor
  · intro hplace
    rw [artifactPath, artifactPath, FileTree.place_join_plain _ _ hname,
      FileTree.place_join_plain _ _ hname'] at hplace
    have htail := List.append_cancel_left hplace
    simpa using htail
  · rintro rfl
    rfl

theorem lastWrite_of_isLast {name : String} {json : Json}
    (hplain : ∀ file ∈ files, Path.IsPlain file.1) (hlast : IsLast files name json) :
    tree.lastWrite (store.writes domain tier files)
      (tree.place (store.artifactPath domain tier name)) = some (content json) := by
  obtain ⟨before, after, rfl, hafter⟩ := hlast
  have hname : Path.IsPlain name := hplain (name, json) (by simp)
  have helsewhere : ∀ v ∈ store.writes domain tier after,
      tree.place v.1 ≠ tree.place (store.artifactPath domain tier name) := by
    intro v hv
    obtain ⟨file, hfile, rfl⟩ := List.mem_map.mp hv
    have hfileName : Path.IsPlain file.1 := hplain file (by simp [hfile])
    rw [Ne, place_eq_iff hfileName hname]
    exact hafter file hfile
  have hwrites : store.writes domain tier (before ++ (name, json) :: after) =
      store.writes domain tier before ++
        (store.artifactPath domain tier name, content json) ::
          store.writes domain tier after := by
    rw [writes, List.map_append, List.map_cons]
    rfl
  rw [hwrites]
  exact FileTree.lastWrite_append_cons helsewhere

theorem saveEffect_of_changes (hdomain : Path.IsPlain domain)
    (hplain : ∀ file ∈ files, Path.IsPlain file.1)
    (hchanges : FileTree.Changes (store.NewDirectory domain tier tree)
      (store.writes domain tier files) tree tree') :
    store.SaveEffect domain tier files tree tree' where
  stored file hfile := by
    obtain ⟨json, hlast⟩ := exists_isLast (List.mem_map_of_mem hfile)
    have hreached : tree'.resolve (store.artifactPath domain tier file.1) =
        .ok (tree.place (store.artifactPath domain tier file.1)) :=
      hchanges.reached _ (List.mem_map_of_mem hfile)
    refine ⟨json, hlast, FileTree.read_of_fileAt hreached ?_⟩
    rw [hchanges.file, lastWrite_of_isLast hplain hlast, Option.some_or]
  frame at_ helsewhere := by
    have hnone : tree.lastWrite (store.writes domain tier files) at_ = none := by
      refine FileTree.lastWrite_eq_none fun w hw hplace => ?_
      obtain ⟨file, hfile, rfl⟩ := List.mem_map.mp hw
      rw [place_artifactPath hdomain tier (hplain file hfile)] at hplace
      exact helsewhere file hfile hplace.symm
    rw [hchanges.file, hnone, Option.none_or]
  kept := hchanges.directory
  made at_ hdirectory := by
    rcases hchanges.newDirectory at_ hdirectory with hbefore | hway
    · exact .inl hbefore
    · rw [NewDirectory, start_tierDirectory hdomain,
        steps_tierDirectory hdomain.isComponent] at hway
      exact .inr hway

end Store

/-! ## Runs of saves -/

namespace CompiledArtifacts

variable {store : Store} {domain : String} {tier : Tier} {files : List (String × Json)}
  {tree tree' mid : FileTree}

/-- Saves that succeed, one after the other. -/
inductive Saves (store : Store) (domain : String) (tier : Tier) :
    List (String × Json) → FileTree → FileTree → Prop
  | nil {tree : FileTree} : Saves store domain tier [] tree tree
  | cons {name : String} {json : Json} {rest : List (String × Json)} {path : Path}
      {tree mid tree' : FileTree} :
      store.save domain tier name json tree = (.ok path, mid) →
      Saves store domain tier rest mid tree' →
      Saves store domain tier ((name, json) :: rest) tree tree'

theorem saveAll_of_saves (hsaves : Saves store domain tier files tree tree') :
    saveAll store domain tier files tree = (.ok (files.map (·.1)), tree') := by
  induction hsaves with
  | nil => rfl
  | cons hsave _ ih =>
    rw [saveAll_cons, hsave]
    dsimp only
    rw [ih]
    rfl

theorem saves_of_saveAll {names : List String}
    (hall : saveAll store domain tier files tree = (.ok names, tree')) :
    Saves store domain tier files tree tree' := by
  induction files generalizing tree names with
  | nil =>
    cases hall
    exact .nil
  | cons file rest ih =>
    obtain ⟨name, json⟩ := file
    rw [saveAll_cons] at hall
    rcases hsave : store.save domain tier name json tree with ⟨_ | path, mid⟩ <;>
      rw [hsave] at hall
    · cases hall
    · dsimp only at hall
      rcases hrest : saveAll store domain tier rest mid with ⟨_ | more, last⟩ <;>
        rw [hrest] at hall
      · cases hall
      · obtain rfl : last = tree' := congrArg (·.2) hall
        exact .cons hsave (ih hrest)

/-- A save that fails leaves all files as they are. -/
theorem fileAt_of_failed_save {name : String} {json : Json} {e : MapError}
    (hsave : store.save domain tier name json mid = (.error e, tree')) (at_ : Location) :
    tree'.fileAt at_ = mid.fileAt at_ :=
  (Store.save_eq_error hsave).file at_

/-- Once a save has succeeded, one that fails changes nothing. -/
theorem tree_of_failed_save {name : String} {json : Json} {e : MapError}
    (hsaves : Saves store domain tier files tree mid) (hfiles : files ≠ [])
    (hsave : store.save domain tier name json mid = (.error e, tree')) : tree' = mid := by
  have hthere := (ready_of_saveAll (saveAll_of_saves hsaves) hfiles).directory
  have hcase := Store.saveCase store domain tier name json mid
  rw [hsave] at hcase
  cases hcase with
  | directoryFails hdirs =>
    rw [hthere] at hdirs
    cases hdirs
  | writeFails hdirs _ =>
    rw [hthere] at hdirs
    exact (congrArg (·.2) hdirs).symm

/-- The names of the files in the order of writing: the list of target tables, the echoed
source schemas, the target schemas, the linkages, the mapping sets. -/
def fileNames (a : CompiledArtifacts) : List String :=
  a.targetTables.fileName a.domain :: a.sourceSchemas.map (·.1) ++
    a.targetSchemas.map (·.fileName a.tier) ++ a.linkages.map (·.fileName) ++
    a.mappings.map (·.fileName)

/-- What the files hold, in the same order. -/
def documents (a : CompiledArtifacts) : List Json :=
  a.targetTables.toJson :: a.sourceSchemas.map (·.2.toJson) ++
    a.targetSchemas.map (·.toJson) ++ a.linkages.map (·.toJson) ++ a.mappings.map (·.toJson)

/-- The files in the order of writing, each name with what stands under it. -/
def filesInOrder (a : CompiledArtifacts) : List (String × Json) :=
  a.fileNames.zip a.documents

theorem entries_eq_filesInOrder (a : CompiledArtifacts) : a.entries = a.filesInOrder := by
  simp [entries, filesInOrder, fileNames, documents, List.zip_append, List.zip_map']

theorem filesInOrder_map_name (a : CompiledArtifacts) :
    a.filesInOrder.map (·.1) = a.fileNames := by
  refine List.map_fst_zip ?_
  simp [fileNames, documents]

/-- How the writing of some artifacts can go, and which of the files it saves. -/
inductive WriteOutcome (a : CompiledArtifacts) (store : Store) (tree : FileTree) :
    Saved (List String) → List (String × Json) → Prop
  /-- All files are saved, and the answer names them. -/
  | complete {tree' : FileTree} :
      Saves store a.domain a.tier a.filesInOrder tree tree' →
      WriteOutcome a store tree (.ok a.fileNames, tree') a.filesInOrder
  /-- A file cannot be saved: those in front of it are, and the answer is its error. -/
  | stopped {done rest : List (String × Json)} {name : String} {json : Json} {e : MapError}
      {mid tree' : FileTree} :
      a.filesInOrder = done ++ (name, json) :: rest →
      Saves store a.domain a.tier done tree mid →
      store.save a.domain a.tier name json mid = (.error e, tree') →
      (∀ at_, tree'.fileAt at_ = mid.fileAt at_) →
      (done ≠ [] → tree' = mid) →
      WriteOutcome a store tree (.error e, tree') done

theorem WriteOutcome.prefix_filesInOrder {a : CompiledArtifacts} {answer : Saved (List String)}
    {done : List (String × Json)} (houtcome : WriteOutcome a store tree answer done) :
    done <+: a.filesInOrder := by
  cases houtcome with
  | complete _ => exact List.prefix_refl _
  | stopped hfiles _ _ _ _ =>
    rw [hfiles]
    exact List.prefix_append done _

theorem write_eq (a : CompiledArtifacts) (store : Store) (tree : FileTree) :
    a.write store tree = saveAll store a.domain a.tier a.filesInOrder tree := by
  rw [write, entries_eq_filesInOrder]

theorem writeOutcome (a : CompiledArtifacts) (store : Store) (tree : FileTree) :
    WriteOutcome a store tree (a.write store tree)
      (saved store a.domain a.tier a.filesInOrder tree) := by
  rcases hwrite : a.write store tree with ⟨e | names, tree'⟩ <;> rw [write_eq] at hwrite
  · obtain ⟨done, name, json, rest, mid, hfiles, hsaved, hdone, hfail⟩ :=
      saveAll_eq_error hwrite
    have hsaves := saves_of_saveAll hdone
    rw [hsaved]
    exact .stopped hfiles hsaves hfail (fileAt_of_failed_save hfail)
      fun hne => tree_of_failed_save hsaves hne hfail
  · obtain ⟨hnames, hsaved⟩ := saveAll_eq_ok hwrite
    rw [hnames, filesInOrder_map_name, hsaved]
    exact .complete (saves_of_saveAll hwrite)

/-- Writing saves the files in their order up to the first failure, and those that were saved
are the only files that have changed. -/
theorem write_saves_prefix (a : CompiledArtifacts) (store : Store) (tree : FileTree) :
    ∃ done, WriteOutcome a store tree (a.write store tree) done ∧
      FileTree.Changes (store.NewDirectory a.domain a.tier tree)
        (store.writes a.domain a.tier done) tree (a.write store tree).2 ∧
      (Path.IsPlain a.domain → (∀ name ∈ a.fileNames, Path.IsPlain name) →
        store.SaveEffect a.domain a.tier done tree (a.write store tree).2) := by
  have houtcome := writeOutcome a store tree
  have hchanges := saveAll_changes store a.domain a.tier a.filesInOrder tree
  rw [← write_eq] at hchanges
  refine ⟨saved store a.domain a.tier a.filesInOrder tree, houtcome, hchanges,
    fun hdomain hnames => ?_⟩
  refine Store.saveEffect_of_changes hdomain (fun file hfile => hnames _ ?_) hchanges
  rw [← filesInOrder_map_name]
  exact List.mem_map_of_mem (houtcome.prefix_filesInOrder.subset hfile)

end CompiledArtifacts

/-! ## A run that stops at its last file -/

namespace TwoSources

/-- In place of the mapping set stands a directory, and a file of another tier is there. -/
def blocked : FileTree :=
  let made := (before.createDirs ⟨"config/domains/sales/bronze/bronze_map_T.json"⟩).2
  made.set ["work", "config", "domains", "sales", "silver.json"] (.file (.bytes "kept".toUTF8))

end TwoSources

/-- All names are plain, two of them stand for two files each, and the last save fails. -/
theorem CompiledArtifacts.write_saves_prefix_blocked :
    (TwoSources.artifacts.write TwoSources.store TwoSources.blocked).1 =
        .error (.write ⟨"config/domains/sales/bronze/bronze_map_T.json"⟩ "is a directory") ∧
      Path.IsPlain "sales" ∧ (∀ name ∈ TwoSources.fileNames, Path.IsPlain name) ∧
      ∃ done, TwoSources.artifacts.WriteOutcome TwoSources.store TwoSources.blocked
          (TwoSources.artifacts.write TwoSources.store TwoSources.blocked) done ∧
        TwoSources.store.SaveEffect "sales" .bronze done TwoSources.blocked
          (TwoSources.artifacts.write TwoSources.store TwoSources.blocked).2 := by
  have hdomain : Path.IsPlain "sales" := by decide
  have hnames : ∀ name ∈ TwoSources.fileNames, Path.IsPlain name := by decide +kernel
  obtain ⟨done, houtcome, -, heffect⟩ :=
    CompiledArtifacts.write_saves_prefix TwoSources.artifacts TwoSources.store TwoSources.blocked
  refine ⟨by decide +kernel, hdomain, hnames, done, houtcome, heffect hdomain ?_⟩
  have hfiles : TwoSources.artifacts.fileNames = TwoSources.fileNames := by decide +kernel
  rw [hfiles]
  exact hnames

end Medallion
