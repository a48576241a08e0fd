import Medallion.Proofs.Store.Saving

/-!
# What stands where in a store

In a store that starts out empty (`Store.IsEmpty`) and into which only plain names are
written, files stand exactly four levels below the root, and directories at most three
(`place_of_write`, `not_directory_at_artifact`).  So nothing ever stands in the way of an
artifact, and the path of an artifact

* reads as what the last write put there (`read_of_lastWrite`);
* leads to nothing if nothing was written there (`node_of_no_write`, `load_of_no_write`).
-/

namespace Medallion.Store

open Location

/-- A store is empty when nothing stands below its root.  The path to the root meets no file
and does not lead through the store itself. -/
structure IsEmpty (store : Store) (tree : FileTree) : Prop where
  nothing_below : ∀ at_, (tree.place store.root).Below at_ → tree.lookup at_ = none
  no_file_on_way : ∀ at_, FileTree.OnWay (tree.start store.root) store.root.steps at_ →
    tree.fileAt at_ = none
  way_outside : ∀ at_, FileTree.OnWay (tree.start store.root) store.root.steps at_ →
    ¬ (tree.place store.root).Below at_

/-- A store is empty if its root can be reached, is not a file, and has nothing below it. -/
theorem isEmpty_of_resolve {store : Store} {tree : FileTree} {root : Location}
    (hroot : tree.resolve store.root = .ok root) (hfile : tree.fileAt root = none)
    (hbelow : ∀ at_, root.Below at_ → tree.lookup at_ = none) : store.IsEmpty tree := by
  obtain rfl := FileTree.resolve_eq_ok hroot
  have hwalk : tree.walk (tree.start store.root) store.root.names =
      .ok (tree.place store.root) := by
    unfold FileTree.resolve at hroot
    split_ifs at hroot
    exact hroot
  have hway (at_ : Location)
      (hat : FileTree.OnWay (tree.start store.root) store.root.steps at_) :
      tree.lookup at_ = some .directory ∨ at_ = tree.place store.root :=
    FileTree.directory_of_onWay hwalk hat
  refine ⟨hbelow, fun at_ hat => ?_, fun at_ hat hinside => ?_⟩
  · rcases hway at_ hat with hdirectory | rfl
    · unfold FileTree.fileAt
      rw [hdirectory]
    · exact hfile
  · rcases hway at_ hat with hdirectory | rfl
    · rw [hbelow at_ hinside] at hdirectory
      cases hdirectory
    · exact hinside.2 rfl

/-- A write of an artifact of a domain with a plain name, into a file with a plain name. -/
def IsWrite (store : Store) (w : Path × Content) : Prop :=
  ∃ domain tier file, Path.IsPlain domain ∧ Path.IsPlain file ∧
    w.1 = store.artifactPath domain tier file

/-- The places at which saving such artifacts can make directories. -/
def ArtifactDirectory (store : Store) (tree : FileTree) (at_ : Location) : Prop :=
  ∃ domain tier, Path.IsPlain domain ∧ store.NewDirectory domain tier tree at_

variable {store : Store} {tree tree' : FileTree} {writes : List (Path × Content)}
  {domain file : String} {tier : Tier} {at_ : Location}

theorem artifactDirectory_congr (hwd : tree'.workingDirectory = tree.workingDirectory) :
    store.ArtifactDirectory tree' = store.ArtifactDirectory tree := by
  funext at_
  unfold ArtifactDirectory
  simp only [newDirectory_congr hwd]

/-! ## Places -/

theorem below_append {root : Location} {names : List String} (hnames : names ≠ []) :
    root.Below (root ++ names) :=
  ⟨List.prefix_append root names, by simpa using hnames⟩

theorem length_place_artifactPath (hdomain : Path.IsPlain domain) (hfile : Path.IsPlain file) :
    (tree.place (store.artifactPath domain tier file)).length =
      (tree.place store.root).length + 4 := by
  rw [place_artifactPath hdomain tier hfile, List.length_append]
  rfl

/-- A file that is written stands four levels below the root. -/
theorem place_of_write {w : Path × Content} (hw : store.IsWrite w) :
    (tree.place store.root).Below (tree.place w.1) ∧
      (tree.place w.1).length = (tree.place store.root).length + 4 := by
  obtain ⟨domain, tier, file, hdomain, hfile, heq⟩ := hw
  rw [heq]
  refine ⟨?_, length_place_artifactPath hdomain hfile⟩
  rw [place_artifactPath hdomain tier hfile]
  exact below_append (by simp)

theorem lastWrite_eq_none_of_length (hwrites : ∀ w ∈ writes, store.IsWrite w)
    (hlength : at_.length ≠ (tree.place store.root).length + 4) :
    tree.lastWrite writes at_ = none := by
  refine FileTree.lastWrite_eq_none fun w hw hplace => hlength ?_
  rw [← hplace]
  exact (place_of_write (hwrites w hw)).2

theorem lastWrite_eq_none_of_not_below (hwrites : ∀ w ∈ writes, store.IsWrite w)
    (hbelow : ¬ (tree.place store.root).Below at_) : tree.lastWrite writes at_ = none := by
  refine FileTree.lastWrite_eq_none fun w hw hplace => hbelow ?_
  rw [← hplace]
  exact (place_of_write (hwrites w hw)).1

/-- On the way to a place below the root. -/
theorem onWay_below {names : List String} (hnames : ∀ name ∈ names, Path.IsPlain name)
    (hway : FileTree.OnWay (tree.start store.root) (store.root.steps ++ names) at_) :
    FileTree.OnWay (tree.start store.root) store.root.steps at_ ∨
      ∃ before, before <+: names ∧ before ≠ [] ∧ at_ = tree.place store.root ++ before := by
  rcases hway.of_append with hroot | ⟨before, hprefix, hne, rfl⟩
  · exact .inl hroot
  · refine .inr ⟨before, hprefix, hne, ?_⟩
    rw [Path.follow_plain _ fun name hname => hnames name (List.IsPrefix.mem hname hprefix),
      FileTree.place_eq_steps]

/-- No directory is made four levels below the root. -/
theorem not_directory_at_artifact (hempty : store.IsEmpty tree)
    (hchanges : FileTree.Changes (store.ArtifactDirectory tree) writes tree tree')
    (hdomain : Path.IsPlain domain) (hfile : Path.IsPlain file) :
    tree'.lookup (tree.place (store.artifactPath domain tier file)) ≠ some .directory := by
  intro hdirectory
  have hplace := @place_artifactPath store tree domain file hdomain tier hfile
  have hbelow : (tree.place store.root).Below
      (tree.place (store.artifactPath domain tier file)) := by
    rw [hplace]
    exact below_append (by simp)
  rcases hchanges.newDirectory _ hdirectory with hbefore | ⟨domain', tier', hdomain', hnew⟩
  · rw [hempty.nothing_below _ hbelow] at hbefore
    cases hbefore
  · -- a directory is made at most three levels below the root
    unfold NewDirectory at hnew
    rw [start_tierDirectory hdomain', steps_tierDirectory hdomain'.isComponent] at hnew
    have hnames : ∀ name ∈ ["domains", domain', tier'.name], Path.IsPlain name := by
      simp [hdomain', Path.isPlain_domains, Path.isPlain_tier]
    rcases onWay_below hnames hnew with hroot | ⟨before, hprefix, -, heq⟩
    · exact hempty.way_outside _ hroot hbelow
    · have hlength := congrArg List.length heq
      rw [length_place_artifactPath hdomain hfile, List.length_append] at hlength
      have hshort := hprefix.length_le
      simp only [List.length_cons, List.length_nil] at hshort
      omega

/-! ## Reading -/

theorem path_of_place {w : Path × Content} (hw : store.IsWrite w) (hdomain : Path.IsPlain domain)
    (hfile : Path.IsPlain file)
    (hplace : tree.place w.1 = tree.place (store.artifactPath domain tier file)) :
    w.1 = store.artifactPath domain tier file := by
  obtain ⟨domain', tier', file', hdomain', hfile', heq⟩ := hw
  rw [heq] at hplace ⊢
  obtain ⟨rfl, rfl, rfl⟩ :=
    (place_artifactPath_inj hdomain' hfile' hdomain hfile).mp hplace
  rfl

/-- The path of an artifact reads as what the last write put there. -/
theorem read_of_lastWrite
    (hchanges : FileTree.Changes (store.ArtifactDirectory tree) writes tree tree')
    (hwrites : ∀ w ∈ writes, store.IsWrite w) (hdomain : Path.IsPlain domain)
    (hfile : Path.IsPlain file) {content : Content}
    (hlast : tree.lastWrite writes (tree.place (store.artifactPath domain tier file)) =
      some content) :
    tree'.read (store.artifactPath domain tier file) = .ok content := by
  obtain ⟨w, hw, hplace, -⟩ := FileTree.mem_of_lastWrite hlast
  have hreached := hchanges.reached w hw
  rw [path_of_place (hwrites w hw) hdomain hfile hplace] at hreached
  refine FileTree.read_of_fileAt hreached ?_
  rw [hchanges.file, hlast, Option.some_or]

/-- No file is in the way of an artifact that was not written, nor in its place. -/
theorem fileAt_on_way (hempty : store.IsEmpty tree)
    (hchanges : FileTree.Changes (store.ArtifactDirectory tree) writes tree tree')
    (hwrites : ∀ w ∈ writes, store.IsWrite w) (hdomain : Path.IsPlain domain)
    (hfile : Path.IsPlain file)
    (hlast : tree.lastWrite writes (tree.place (store.artifactPath domain tier file)) = none)
    (hway : FileTree.OnWay (tree.start store.root)
      (store.root.steps ++ ["domains", domain, tier.name, file]) at_) :
    tree'.fileAt at_ = none := by
  have hnames : ∀ name ∈ ["domains", domain, tier.name, file], Path.IsPlain name := by
    simp [hdomain, hfile, Path.isPlain_domains, Path.isPlain_tier]
  rw [hchanges.file, Option.or_eq_none_iff]
  rcases onWay_below hnames hway with hroot | ⟨before, hprefix, hne, rfl⟩
  · exact ⟨lastWrite_eq_none_of_not_below hwrites (hempty.way_outside _ hroot),
      hempty.no_file_on_way _ hroot⟩
  · constructor
    · -- only the whole way is as long as that of an artifact
      by_cases hfull : before = ["domains", domain, tier.name, file]
      · rwa [hfull, ← place_artifactPath hdomain tier hfile]
      · refine lastWrite_eq_none_of_length hwrites fun hlength => hfull ?_
        rw [List.length_append] at hlength
        refine hprefix.eq_of_length ?_
        simp only [List.length_cons, List.length_nil]
        omega
    · unfold FileTree.fileAt
      rw [hempty.nothing_below _ (below_append hne)]

/-- The path of an artifact that was not written leads to nothing. -/
theorem node_of_no_write (hempty : store.IsEmpty tree)
    (hchanges : FileTree.Changes (store.ArtifactDirectory tree) writes tree tree')
    (hwrites : ∀ w ∈ writes, store.IsWrite w) (hdomain : Path.IsPlain domain)
    (hfile : Path.IsPlain file)
    (hlast : tree.lastWrite writes (tree.place (store.artifactPath domain tier file)) = none) :
    ∃ e, tree'.node (store.artifactPath domain tier file) = .error e ∧
      ((store.artifactPath domain tier file).Fits → e = .notFound) := by
  have hwd := hchanges.workingDirectory
  have hfiles (b : Location) (hway : FileTree.OnWay
      (tree'.start (store.artifactPath domain tier file))
      (store.artifactPath domain tier file).steps b) : tree'.fileAt b = none := by
    rw [start_artifactPath hdomain tier hfile, FileTree.start_congr hwd,
      steps_artifactPath hdomain.isComponent tier hfile.isComponent] at hway
    exact fileAt_on_way hempty hchanges hwrites hdomain hfile hlast hway
  have htext := @artifactPath_ne_empty store domain file hdomain tier hfile
  unfold FileTree.node
  cases hresolve : tree'.resolve (store.artifactPath domain tier file) with
  | error e =>
    refine ⟨e, rfl, fun hfits => ?_⟩
    rcases FileTree.resolve_ok_or_notFound hfits htext hfiles with hok | hnotFound
    · rw [hok] at hresolve
      cases hresolve
    · rw [hnotFound] at hresolve
      exact (Except.error.inj hresolve).symm
  | ok at_ =>
    obtain rfl := FileTree.resolve_eq_ok hresolve
    have hnone : tree'.fileAt (tree'.place (store.artifactPath domain tier file)) = none :=
      hfiles _ ⟨_, List.prefix_refl _, FileTree.place_eq_steps _ _⟩
    have hdirectory : tree'.lookup (tree'.place (store.artifactPath domain tier file)) ≠
        some .directory := by
      rw [FileTree.place_congr hwd]
      exact not_directory_at_artifact hempty hchanges hdomain hfile
    dsimp only [bind, Except.bind]
    cases hlookup : tree'.lookup (tree'.place (store.artifactPath domain tier file)) with
    | none => exact ⟨.notFound, rfl, fun _ => rfl⟩
    | some node =>
      cases node with
      | directory => exact absurd hlookup hdirectory
      | file content =>
        rw [FileTree.fileAt_eq_some.mpr hlookup] at hnone
        cases hnone

theorem load_of_no_write {α : Type} (read : Document → Option α) (hempty : store.IsEmpty tree)
    (hchanges : FileTree.Changes (store.ArtifactDirectory tree) writes tree tree')
    (hwrites : ∀ w ∈ writes, store.IsWrite w) (hdomain : Path.IsPlain domain)
    (hfile : Path.IsPlain file)
    (hlast : tree.lastWrite writes (tree.place (store.artifactPath domain tier file)) = none) :
    load tree' (store.artifactPath domain tier file) read =
        .error (.artifactNotFound (store.artifactPath domain tier file)) ∨
      ¬ (store.artifactPath domain tier file).Fits ∧ ∃ e : FileError,
        load tree' (store.artifactPath domain tier file) read =
          .error (.malformedArtifact (store.artifactPath domain tier file) e.message) := by
  obtain ⟨e, hnode, hfits⟩ := node_of_no_write hempty hchanges hwrites hdomain hfile hlast
  have htext : tree'.readText (store.artifactPath domain tier file) = .error e := by
    unfold FileTree.readText FileTree.read
    rw [hnode]
    rfl
  unfold load
  rw [htext]
  by_cases he : e = .notFound
  · subst he
    exact .inl rfl
  · refine .inr ⟨fun h => he (hfits h), e, ?_⟩
    cases e with
    | notFound => exact absurd rfl he
    | _ => rfl

end Medallion.Store
