import Medallion.Compilation
import Medallion.Proofs.File.Joining
import Medallion.Proofs.File.Writing

/-!
# What saving changes

A save writes one file or none; either way it may make the directory of the tier (`SaveCase`,
`save_eq_ok`, `save_eq_error`).  Saving a list of files saves those in front of the first
failure (`CompiledArtifacts.saved`), and changes the file tree by these writes only
(`saveAll_changes`).

When all goes well, all files are saved and their names are the answer (`saveAll_eq_ok`,
`changes_of_saveAll`).  When it does not, the files fall into those that were saved, the one
that failed, and those that were not tried (`saveAll_eq_error`).
-/

namespace Medallion

namespace Store

variable {store : Store} {domain name : String} {tier : Tier} {json : Json}
  {tree tree' : FileTree}

/-- The writes that save some files. -/
def writes (store : Store) (domain : String) (tier : Tier) (files : List (String × Json)) :
    List (Path × Content) :=
  files.map fun file => (store.artifactPath domain tier file.1, content file.2)

/-- The places at which a save can make a directory. -/
def NewDirectory (store : Store) (domain : String) (tier : Tier) (tree : FileTree) :
    Location → Prop :=
  FileTree.OnWay (tree.start (store.tierDirectory domain tier))
    (store.tierDirectory domain tier).steps

theorem newDirectory_congr (hwd : tree'.workingDirectory = tree.workingDirectory) :
    store.NewDirectory domain tier tree' = store.NewDirectory domain tier tree := by
  rw [NewDirectory, NewDirectory, FileTree.start_congr hwd]

/-- The ways in which a save can go. -/
inductive SaveCase (store : Store) (domain : String) (tier : Tier) (name : String) (json : Json)
    (tree : FileTree) : Saved Path → Prop
  /-- The directory of the tier cannot be made.  Some of those above it may have been. -/
  | directoryFails {e : FileError} {mid : FileTree}
      (hdirs : tree.createDirs (store.tierDirectory domain tier) = (.error e, mid)) :
      SaveCase store domain tier name json tree
        (.error (.createDirectory (store.tierDirectory domain tier) e.message), mid)
  /-- The directory is there, and the file cannot be written. -/
  | writeFails {e : FileError} {mid : FileTree}
      (hdirs : tree.createDirs (store.tierDirectory domain tier) = (.ok (), mid))
      (hwrite : mid.write (store.artifactPath domain tier name) (content json) = .error e) :
      SaveCase store domain tier name json tree
        (.error (.write (store.artifactPath domain tier name) e.message), mid)
  | done {mid made : FileTree}
      (hdirs : tree.createDirs (store.tierDirectory domain tier) = (.ok (), mid))
      (hwrite : mid.write (store.artifactPath domain tier name) (content json) = .ok made) :
      SaveCase store domain tier name json tree (.ok (store.artifactPath domain tier name), made)

theorem saveCase (store : Store) (domain : String) (tier : Tier) (name : String) (json : Json)
    (tree : FileTree) :
    SaveCase store domain tier name json tree (store.save domain tier name json tree) := by
  unfold save
  dsimp only
  rcases hdirs : tree.createDirs (store.tierDirectory domain tier) with ⟨e | _, mid⟩
  · exact .directoryFails hdirs
  · dsimp only
    cases hwrite : mid.write (store.artifactPath domain tier name) (content json) with
    | error e => exact .writeFails hdirs hwrite
    | ok made => exact .done hdirs hwrite

/-- Directories of the tier that a save makes, whether or not it succeeds. -/
theorem changes_of_createDirs {answer : Except FileError Unit} {mid : FileTree}
    (hdirs : tree.createDirs (store.tierDirectory domain tier) = (answer, mid)) :
    FileTree.Changes (store.NewDirectory domain tier tree) [] tree mid := by
  have hchanges := tree.createDirs_changes (store.tierDirectory domain tier)
  rwa [hdirs] at hchanges

theorem save_eq_ok {path : Path}
    (hsave : store.save domain tier name json tree = (.ok path, tree')) :
    FileTree.Changes (store.NewDirectory domain tier tree)
      (store.writes domain tier [(name, json)]) tree tree' := by
  have hcase := saveCase store domain tier name json tree
  rw [hsave] at hcase
  cases hcase with
  | done hdirs hwrite =>
    have hwritten := FileTree.write_changes hwrite
    exact (changes_of_createDirs hdirs).trans (hwritten.mono fun _ h => h.elim)

theorem save_eq_error {e : MapError}
    (hsave : store.save domain tier name json tree = (.error e, tree')) :
    FileTree.Changes (store.NewDirectory domain tier tree) [] tree tree' := by
  have hcase := saveCase store domain tier name json tree
  rw [hsave] at hcase
  cases hcase with
  | directoryFails hdirs => exact changes_of_createDirs hdirs
  | writeFails hdirs _ => exact changes_of_createDirs hdirs

end Store

namespace CompiledArtifacts

variable {store : Store} {domain : String} {tier : Tier} {tree tree' : FileTree}

/-- The files that are saved in front of the first failure. -/
def saved (store : Store) (domain : String) (tier : Tier) :
    List (String × Json) → FileTree → List (String × Json)
  | [], _ => []
  | (name, json) :: rest, tree =>
    match store.save domain tier name json tree with
    | (.error _, _) => []
    | (.ok _, tree) => (name, json) :: saved store domain tier rest tree

section Equations

variable {name : String} {json : Json} {rest : List (String × Json)}

-- a save is not to be run when one of these is put together
attribute [local irreducible] Store.save

theorem saveAll_cons :
    saveAll store domain tier ((name, json) :: rest) tree =
      match store.save domain tier name json tree with
      | (.error e, tree) => (.error e, tree)
      | (.ok _, tree) =>
        match saveAll store domain tier rest tree with
        | (.error e, tree) => (.error e, tree)
        | (.ok names, tree) => (.ok (name :: names), tree) := rfl

theorem saved_cons :
    saved store domain tier ((name, json) :: rest) tree =
      match store.save domain tier name json tree with
      | (.error _, _) => []
      | (.ok _, tree) => (name, json) :: saved store domain tier rest tree := rfl

end Equations

theorem saved_prefix (store : Store) (domain : String) (tier : Tier)
    (files : List (String × Json)) (tree : FileTree) :
    saved store domain tier files tree <+: files := by
  induction files generalizing tree with
  | nil => exact List.prefix_refl []
  | cons file rest ih =>
    obtain ⟨name, json⟩ := file
    rw [saved_cons]
    rcases store.save domain tier name json tree with ⟨_ | path, mid⟩
    · exact List.nil_prefix
    · exact List.cons_prefix_cons.mpr ⟨rfl, ih mid⟩

theorem saveAll_changes (store : Store) (domain : String) (tier : Tier)
    (files : List (String × Json)) (tree : FileTree) :
    FileTree.Changes (store.NewDirectory domain tier tree)
      (store.writes domain tier (saved store domain tier files tree)) tree
      (saveAll store domain tier files tree).2 := by
  induction files generalizing tree with
  | nil => exact .refl
  | cons file rest ih =>
    obtain ⟨name, json⟩ := file
    rw [saved_cons, saveAll_cons]
    rcases hsave : store.save domain tier name json tree with ⟨_ | path, mid⟩
    · -- the failed save can have made directories all the same
      exact Store.save_eq_error hsave
    · have hfirst := Store.save_eq_ok hsave
      have hrest := ih mid
      rw [Store.newDirectory_congr hfirst.workingDirectory] at hrest
      dsimp only
      rcases hall : saveAll store domain tier rest mid with ⟨_ | _, last⟩ <;>
        rw [hall] at hrest <;> exact hfirst.trans hrest

theorem saveAll_eq_ok {files : List (String × Json)} {names : List String}
    (hall : saveAll store domain tier files tree = (.ok names, tree')) :
    names = files.map (·.1) ∧ saved store domain tier files tree = files := by
  induction files generalizing tree names with
  | nil =>
    cases hall
    exact ⟨rfl, rfl⟩
  | cons file rest ih =>
    obtain ⟨name, json⟩ := file
    rw [saved_cons]
    rw [saveAll_cons] at hall
    rcases hsave : store.save domain tier name json tree with ⟨_ | path, mid⟩ <;>
      rw [hsave] at hall
    · cases hall
    · dsimp only at hall ⊢
      rcases hrest : saveAll store domain tier rest mid with ⟨_ | more, last⟩ <;>
        rw [hrest] at hall
      · cases hall
      · simp only [Prod.mk.injEq, Except.ok.injEq] at hall
        obtain ⟨rfl, rfl⟩ := hall
        obtain ⟨rfl, hsaved⟩ := ih hrest
        exact ⟨rfl, by rw [hsaved]⟩

/-- A save of all files that succeeds changes the file tree by all of their writes. -/
theorem changes_of_saveAll {files : List (String × Json)} {names : List String}
    (hall : saveAll store domain tier files tree = (.ok names, tree')) :
    FileTree.Changes (store.NewDirectory domain tier tree) (store.writes domain tier files) tree
      tree' := by
  have hchanges := saveAll_changes store domain tier files tree
  rwa [hall, (saveAll_eq_ok hall).2] at hchanges

/-- The first failure parts the files. -/
theorem saveAll_eq_error {files : List (String × Json)} {e : MapError}
    (hall : saveAll store domain tier files tree = (.error e, tree')) :
    ∃ done name json rest mid, files = done ++ (name, json) :: rest ∧
      saved store domain tier files tree = done ∧
      saveAll store domain tier done tree = (.ok (done.map (·.1)), mid) ∧
      store.save domain tier name json mid = (.error e, tree') := by
  induction files generalizing tree with
  | nil => cases hall
  | cons file rest ih =>
    obtain ⟨name, json⟩ := file
    rw [saveAll_cons] at hall
    rcases hsave : store.save domain tier name json tree with ⟨e' | path, mid⟩ <;>
      rw [hsave] at hall
    · simp only [Prod.mk.injEq, Except.error.injEq] at hall
      obtain ⟨rfl, rfl⟩ := hall
      exact ⟨[], name, json, rest, tree, rfl, by rw [saved_cons, hsave], rfl, hsave⟩
    · dsimp only at hall
      rcases hrest : saveAll store domain tier rest mid with ⟨e' | more, last⟩ <;>
        rw [hrest] at hall
      · simp only [Prod.mk.injEq, Except.error.injEq] at hall
        obtain ⟨rfl, rfl⟩ := hall
        obtain ⟨done, name', json', rest', mid', hfiles, hsaved, hdone, hfail⟩ := ih hrest
        refine ⟨(name, json) :: done, name', json', rest', mid', ?_, ?_, ?_, hfail⟩
        · rw [hfiles, List.cons_append]
        · rw [saved_cons, hsave]
          exact congrArg _ hsaved
        · rw [saveAll_cons, hsave]
          dsimp only
          rw [hdone]
          rfl
      · cases hall

end CompiledArtifacts

end Medallion
