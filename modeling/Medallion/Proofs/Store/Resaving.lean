import Medallion.Proofs.File.Rewriting
import Medallion.Proofs.Store.Saving

/-!
# Saving the same files again

When some files have been saved, saving them again succeeds and changes nothing
(`CompiledArtifacts.saveAll_again`), also when several of them have the same name and only
the last one of these can be read.

`Store.Ready` is what one save after the other keeps, and what none of them needs more of:
the directory of the tier is there, every path leads to its place, and there is a file at
that place.
-/

namespace Medallion

namespace Store

/-- Whether some files can be saved over those that are there. -/
structure Ready (store : Store) (domain : String) (tier : Tier) (files : List (String × Json))
    (tree : FileTree) : Prop where
  directory : tree.createDirs (store.tierDirectory domain tier) = (.ok (), tree)
  reached : ∀ file ∈ files, tree.resolve (store.artifactPath domain tier file.1) =
    .ok (tree.place (store.artifactPath domain tier file.1))
  present : ∀ file ∈ files,
    tree.fileAt (tree.place (store.artifactPath domain tier file.1)) ≠ none

variable {store : Store} {domain name : String} {tier : Tier} {json : Json}
  {tree tree' : FileTree} {files : List (String × Json)} {file : String × Json}

theorem steps_tierDirectory_ne_nil (store : Store) (domain : String) (tier : Tier) :
    (store.tierDirectory domain tier).steps ≠ [] := by
  have htier := Path.isPlain_tier tier
  rw [tierDirectory, Path.steps_join _ htier.isAbsolute, htier.steps]
  simp

/-! ## One file -/

/-- After a save the directory of the tier need not be made. -/
theorem createDirs_of_save {path : Path}
    (hsave : store.save domain tier name json tree = (.ok path, tree')) :
    tree'.createDirs (store.tierDirectory domain tier) = (.ok (), tree') := by
  have hcase := saveCase store domain tier name json tree
  rw [hsave] at hcase
  cases hcase with
  | done hdirs hwrite =>
    have hmade := changes_of_createDirs hdirs
    have hwritten := FileTree.write_changes hwrite
    exact FileTree.createDirs_of_directories (steps_tierDirectory_ne_nil store domain tier) hdirs
      (hwritten.workingDirectory.trans hmade.workingDirectory) hwritten.directory

namespace Ready

theorem mono {more : List (String × Json)} (hready : store.Ready domain tier files tree)
    (hmore : ∀ file ∈ more, file ∈ files) : store.Ready domain tier more tree :=
  ⟨hready.directory, fun file hfile => hready.reached file (hmore file hfile),
    fun file hfile => hready.present file (hmore file hfile)⟩

/-- A save puts its file in the place of the old one. -/
theorem save (hready : store.Ready domain tier files tree) (hfile : file ∈ files) :
    store.save domain tier file.1 file.2 tree =
      (.ok (store.artifactPath domain tier file.1),
        tree.set (tree.place (store.artifactPath domain tier file.1))
          (.file (content file.2))) := by
  have hnode := FileTree.lookup_ne_directory (hready.present file hfile)
  have hwrite : tree.write (store.artifactPath domain tier file.1) (content file.2) =
      .ok (tree.set (tree.place (store.artifactPath domain tier file.1))
        (.file (content file.2))) := by
    unfold FileTree.write
    rw [hready.reached file hfile]
    dsimp only [bind, Except.bind]
    split
    · contradiction
    · rfl
  unfold Store.save
  dsimp only
  rw [hready.directory]
  dsimp only
  rw [hwrite]

/-- The next file can be saved like the first one. -/
theorem set (hready : store.Ready domain tier files tree) (hfile : file ∈ files) :
    store.Ready domain tier files
      (tree.set (tree.place (store.artifactPath domain tier file.1))
        (.file (content file.2))) := by
  have hpresent := hready.present file hfile
  have hdirs (b : Location) (hdirectory : tree.lookup b = some .directory) :
      (tree.set (tree.place (store.artifactPath domain tier file.1))
        (.file (content file.2))).lookup b = some .directory :=
    FileTree.directory_set hpresent hdirectory
  refine ⟨?_, fun other hother => ?_, fun other hother => ?_⟩
  · exact FileTree.createDirs_of_directories (steps_tierDirectory_ne_nil store domain tier)
      hready.directory rfl hdirs
  · rw [FileTree.place_set]
    refine FileTree.resolve_of_directories ?_ hdirs (hready.reached other hother)
    rfl
  · rw [FileTree.place_set]
    exact FileTree.fileAt_set_ne_none hpresent (hready.present other hother)

end Ready

end Store

/-! ## Several files -/

namespace CompiledArtifacts

open Store

variable {store : Store} {domain : String} {tier : Tier} {files : List (String × Json)}
  {names : List String} {tree tree' : FileTree}

theorem saveAll_of_ready (hready : store.Ready domain tier files tree) :
    saveAll store domain tier files tree =
      (.ok (files.map (·.1)), tree.putAll (store.writes domain tier files)) := by
  induction files generalizing tree with
  | nil => rfl
  | cons file rest ih =>
    have hrest := (hready.set List.mem_cons_self).mono fun _ => List.mem_cons_of_mem file
    rw [saveAll_cons, hready.save List.mem_cons_self]
    dsimp only
    rw [ih hrest]
    rfl

theorem ready_of_saveAll (hall : saveAll store domain tier files tree = (.ok names, tree'))
    (hfiles : files ≠ []) : store.Ready domain tier files tree' := by
  have hchanges := changes_of_saveAll hall
  refine ⟨?_, fun file hfile => ?_, fun file hfile => ?_⟩
  · -- the first file has needed the directory, and the others keep it
    obtain ⟨⟨name, json⟩, rest, rfl⟩ := List.exists_cons_of_ne_nil hfiles
    rw [saveAll_cons] at hall
    rcases hsave : store.save domain tier name json tree with ⟨_ | path, mid⟩ <;>
      rw [hsave] at hall
    · cases hall
    · have hrest := saveAll_changes store domain tier rest mid
      dsimp only at hall
      rcases hlast : saveAll store domain tier rest mid with ⟨_ | more, last⟩ <;>
        rw [hlast] at hall hrest
      · cases hall
      · simp only [Prod.mk.injEq] at hall
        obtain ⟨-, rfl⟩ := hall
        exact FileTree.createDirs_of_directories (steps_tierDirectory_ne_nil store domain tier)
          (createDirs_of_save hsave) hrest.workingDirectory hrest.directory
  · rw [FileTree.place_congr hchanges.workingDirectory]
    exact hchanges.reached _ (List.mem_map_of_mem hfile)
  · have hwrite : (store.artifactPath domain tier file.1, content file.2) ∈
        store.writes domain tier files := List.mem_map_of_mem hfile
    rw [FileTree.place_congr hchanges.workingDirectory, hchanges.file]
    intro hnone
    exact FileTree.lastWrite_ne_none ⟨_, hwrite, rfl⟩ (Option.or_eq_none_iff.mp hnone).1

/-- Saving what has been saved changes nothing. -/
theorem saveAll_again (hall : saveAll store domain tier files tree = (.ok names, tree')) :
    saveAll store domain tier files tree' = (.ok names, tree') := by
  by_cases hfiles : files = []
  · subst hfiles
    cases hall
    rfl
  · have hchanges := changes_of_saveAll hall
    have hholds : ∀ w ∈ store.writes domain tier files,
        tree'.fileAt (tree'.place w.1) =
          tree'.lastWrite (store.writes domain tier files) (tree'.place w.1) := by
      intro w hw
      obtain ⟨content, hlast⟩ :=
        Option.ne_none_iff_exists'.mp (@FileTree.lastWrite_ne_none tree _ _ ⟨w, hw, rfl⟩)
      rw [FileTree.place_congr hchanges.workingDirectory,
        FileTree.lastWrite_congr hchanges.workingDirectory, hchanges.file, hlast, Option.some_or]
    rw [saveAll_of_ready (ready_of_saveAll hall hfiles), FileTree.putAll_eq_self hholds,
      (saveAll_eq_ok hall).1]

end CompiledArtifacts

end Medallion
