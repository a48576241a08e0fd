import Medallion.Proofs.File.Writing

/-!
# Writing what is there already

Some files are written one after the other into a tree that has files at all their places
(`putAll`).  The directories stay as they are, and if each place holds what the last of the
writes to it puts there, so does everything else (`putAll_eq_self`).  A place that is
written to several times may hold something else in between.

The entries of a file tree are a list, so this rests on three laws of `setEntry`: the second
of two writes to one place counts, writes to two places can change their order if the first
place is there, and nothing changes when a place is given what it holds.

A directory that has been made is not made again, as long as nothing removes it
(`createDirs_of_directories`).
-/

namespace Medallion.FileTree

/-! ## Entries -/

section Entries

variable {at_ b : Location} {node other : Node} {entries : List (Location × Node)}

theorem setEntry_setEntry (at_ : Location) (node other : Node)
    (entries : List (Location × Node)) :
    setEntry at_ node (setEntry at_ other entries) = setEntry at_ node entries := by
  induction entries with
  | nil => simp [setEntry]
  | cons entry entries ih =>
    obtain ⟨place, old⟩ := entry
    by_cases hplace : place = at_
    · simp [setEntry, hplace]
    · simp only [setEntry, if_neg hplace, ih]

/-- The order of two new entries is that of their writes, so one of the places has to be
there. -/
theorem setEntry_comm (hne : at_ ≠ b) (hthere : entries.lookup at_ ≠ none) :
    setEntry b other (setEntry at_ node entries) =
      setEntry at_ node (setEntry b other entries) := by
  induction entries with
  | nil => exact absurd rfl hthere
  | cons entry entries ih =>
    obtain ⟨place, old⟩ := entry
    by_cases hat : place = at_
    · subst hat
      simp [setEntry, hne]
    · rw [List.lookup_cons, beq_false_of_ne (Ne.symm hat)] at hthere
      by_cases hb : place = b
      · subst hb
        simp [setEntry, hat]
      · simp only [setEntry, if_neg hat, if_neg hb, ih hthere]

theorem setEntry_eq_self (hnode : entries.lookup at_ = some node) :
    setEntry at_ node entries = entries := by
  induction entries with
  | nil => cases hnode
  | cons entry entries ih =>
    obtain ⟨place, old⟩ := entry
    by_cases hplace : place = at_
    · subst hplace
      rw [List.lookup_cons_self] at hnode
      rw [setEntry, if_pos rfl, Option.some.inj hnode]
    · rw [List.lookup_cons, beq_false_of_ne (Ne.symm hplace)] at hnode
      rw [setEntry, if_neg hplace, ih hnode]

end Entries

/-! ## Files -/

section Files

variable {tree : FileTree} {at_ b : Location} {content other : Content}

theorem lookup_entries_of_fileAt (hfile : tree.fileAt at_ = some content) :
    tree.entries.lookup at_ = some (.file content) := by
  rw [fileAt_eq_some, lookup] at hfile
  split_ifs at hfile
  · cases hfile
  · exact hfile

theorem lookup_ne_directory (hfile : tree.fileAt at_ ≠ none) :
    tree.lookup at_ ≠ some .directory := by
  intro hdirectory
  simp [fileAt, hdirectory] at hfile

theorem fileAt_set (hfile : tree.fileAt at_ ≠ none) (b : Location) :
    (tree.set at_ (.file content)).fileAt b = if b = at_ then some content else tree.fileAt b := by
  unfold fileAt
  rw [lookup_set (lookup_ne_directory hfile)]
  split_ifs <;> rfl

theorem fileAt_set_ne_none (hfile : tree.fileAt at_ ≠ none) (hb : tree.fileAt b ≠ none) :
    (tree.set at_ (.file content)).fileAt b ≠ none := by
  rw [fileAt_set hfile]
  split_ifs
  · exact Option.some_ne_none _
  · exact hb

theorem directory_set (hfile : tree.fileAt at_ ≠ none)
    (hdirectory : tree.lookup b = some .directory) :
    (tree.set at_ (.file content)).lookup b = some .directory := by
  rw [lookup_set (lookup_ne_directory hfile), if_neg, hdirectory]
  rintro rfl
  exact lookup_ne_directory hfile hdirectory

/-- No file moves the working directory. -/
theorem place_set (tree : FileTree) (at_ : Location) (node : Node) (p : Path) :
    (tree.set at_ node).place p = tree.place p :=
  place_congr rfl p

theorem set_set (tree : FileTree) (at_ : Location) (node other : Node) :
    (tree.set at_ other).set at_ node = tree.set at_ node := by
  rw [set, set, set, setEntry_setEntry]

theorem set_comm {node node' : Node} (hne : at_ ≠ b) (hfile : tree.fileAt at_ ≠ none) :
    (tree.set at_ node).set b node' = (tree.set b node').set at_ node := by
  obtain ⟨content, hfile⟩ := Option.ne_none_iff_exists'.mp hfile
  have hthere : tree.entries.lookup at_ ≠ none := by
    rw [lookup_entries_of_fileAt hfile]
    exact Option.some_ne_none _
  simp only [set, setEntry_comm hne hthere]

theorem set_eq_self (hfile : tree.fileAt at_ = some content) :
    tree.set at_ (.file content) = tree := by
  rw [set, setEntry_eq_self (lookup_entries_of_fileAt hfile)]

end Files

/-! ## Several files -/

/-- Puts some contents at the places of their paths, one after the other. -/
def putAll (tree : FileTree) (writes : List (Path × Content)) : FileTree :=
  writes.foldl (fun t w => t.set (t.place w.1) (.file w.2)) tree

section Writes

variable {tree : FileTree} {at_ : Location} {writes : List (Path × Content)}

theorem putAll_cons (tree : FileTree) (w : Path × Content) (writes : List (Path × Content)) :
    tree.putAll (w :: writes) = (tree.set (tree.place w.1) (.file w.2)).putAll writes := rfl

/-- What is at a place that is written to later on makes no difference. -/
theorem putAll_set {node : Node} (hfile : tree.fileAt at_ ≠ none)
    (hfiles : ∀ w ∈ writes, tree.fileAt (tree.place w.1) ≠ none)
    (hlater : ∃ w ∈ writes, tree.place w.1 = at_) :
    (tree.set at_ node).putAll writes = tree.putAll writes := by
  induction writes generalizing tree with
  | nil => simp at hlater
  | cons w writes ih =>
    rw [List.forall_mem_cons] at hfiles
    rw [putAll_cons, putAll_cons, place_set]
    by_cases hsame : tree.place w.1 = at_
    · rw [hsame, set_set]
    · rw [set_comm (Ne.symm hsame) hfile]
      refine ih (fileAt_set_ne_none hfiles.1 hfile)
        (fun v hv => fileAt_set_ne_none hfiles.1 (hfiles.2 v hv)) ?_
      obtain ⟨v, hv, hat⟩ := hlater
      rcases List.mem_cons.mp hv with rfl | hv
      · exact absurd hat hsame
      · exact ⟨v, hv, hat⟩

/-- Nothing changes if every place holds what the last write to it puts there. -/
theorem putAll_eq_self
    (hholds : ∀ w ∈ writes,
      tree.fileAt (tree.place w.1) = tree.lastWrite writes (tree.place w.1)) :
    tree.putAll writes = tree := by
  induction writes with
  | nil => rfl
  | cons w writes ih =>
    have hfiles : ∀ v ∈ w :: writes, tree.fileAt (tree.place v.1) ≠ none := by
      intro v hv
      rw [hholds v hv]
      exact lastWrite_ne_none ⟨v, hv, rfl⟩
    rw [List.forall_mem_cons] at hfiles
    have hsplit (b : Location) : tree.lastWrite (w :: writes) b =
        (tree.lastWrite writes b).or (tree.lastWrite [w] b) :=
      lastWrite_append tree [w] writes b
    have hrest : ∀ v ∈ writes,
        tree.fileAt (tree.place v.1) = tree.lastWrite writes (tree.place v.1) := by
      intro v hv
      obtain ⟨content, hlast⟩ :=
        Option.ne_none_iff_exists'.mp (@lastWrite_ne_none tree _ _ ⟨v, hv, rfl⟩)
      rw [hholds v (List.mem_cons_of_mem w hv), hsplit, hlast, Option.some_or]
    have hkeep : (tree.set (tree.place w.1) (.file w.2)).putAll writes = tree.putAll writes := by
      by_cases hlater : ∃ v ∈ writes, tree.place v.1 = tree.place w.1
      · exact putAll_set hfiles.1 hfiles.2 hlater
      · have hnone : tree.lastWrite writes (tree.place w.1) = none :=
          lastWrite_eq_none fun v hv hplace => hlater ⟨v, hv, hplace⟩
        have hheld := hholds w List.mem_cons_self
        rw [hsplit, hnone, Option.none_or, lastWrite_singleton] at hheld
        rw [set_eq_self hheld]
    rw [putAll_cons, hkeep, ih hrest]

end Writes

/-! ## Directories -/

section Directories

variable {tree tree' made : FileTree} {from_ : Location} {names : List String}

theorem leadsToDirectory_eq_true :
    tree.leadsToDirectory from_ names = true ↔
      ∃ place, tree.walk from_ names = .ok place ∧ tree.lookup place = some .directory := by
  unfold leadsToDirectory
  cases tree.walk from_ names with
  | error e => simp
  | ok place => simp

theorem leadsToDirectory_of_directories
    (hdirs : ∀ b, tree.lookup b = some .directory → tree'.lookup b = some .directory)
    (hleads : tree.leadsToDirectory from_ names = true) :
    tree'.leadsToDirectory from_ names = true := by
  rw [leadsToDirectory_eq_true] at hleads ⊢
  obtain ⟨place, hwalk, hplace⟩ := hleads
  exact ⟨place, walk_of_directories hdirs hwalk, hdirs place hplace⟩

theorem leadsToDirectory_of_createDir (hmade : tree.createDir from_ names = .ok made) :
    made.leadsToDirectory from_ names = true := by
  have hchanges := createDir_changes hmade
  unfold createDir at hmade
  cases hwalk : tree.walk from_ names with
  | error e => simp [hwalk, bind, Except.bind] at hmade
  | ok place =>
    cases hnode : tree.lookup place with
    | some node => simp [hwalk, hnode, bind, Except.bind] at hmade
    | none =>
      simp only [hwalk, hnode, bind, Except.bind, Except.ok.injEq] at hmade
      rw [leadsToDirectory_eq_true]
      refine ⟨place, walk_of_directories hchanges.directory hwalk, ?_⟩
      rw [← hmade, lookup_set (by simp [hnode]), if_pos rfl]

/-- The names of `createAbove` stand in reverse. -/
theorem leadsToDirectory_of_createAbove (hnames : names ≠ [])
    (hmade : createAbove from_ names tree = (.ok (), made)) :
    made.leadsToDirectory from_ names.reverse = true := by
  cases names with
  | nil => exact absurd rfl hnames
  | cons name above =>
    simp only [createAbove] at hmade
    cases hfirst : tree.createDir from_ (name :: above).reverse with
    | ok made' =>
      simp only [hfirst, Prod.mk.injEq, true_and] at hmade
      subst hmade
      exact leadsToDirectory_of_createDir hfirst
    | error e =>
      rw [hfirst] at hmade
      cases e with
      | notFound =>
        dsimp only at hmade
        rcases hres : createAbove from_ above tree with ⟨_ | _, mid⟩ <;> rw [hres] at hmade
        · cases hmade
        · dsimp only at hmade
          cases hlast : mid.createDir from_ (name :: above).reverse with
          | ok made' =>
            simp only [hlast, Prod.mk.injEq, true_and] at hmade
            subst hmade
            exact leadsToDirectory_of_createDir hlast
          | error e =>
            simp only [hlast, Prod.mk.injEq] at hmade
            obtain ⟨hleads, rfl⟩ := hmade
            split_ifs at hleads with hdirectory
            exact hdirectory
      | _ =>
        simp only [Prod.mk.injEq] at hmade
        obtain ⟨hleads, rfl⟩ := hmade
        split_ifs at hleads with hdirectory
        exact hdirectory

/-- Nothing is made where a directory is. -/
theorem createAbove_of_leadsToDirectory (hnames : names ≠ [])
    (hleads : tree.leadsToDirectory from_ names.reverse = true) :
    createAbove from_ names tree = (.ok (), tree) := by
  cases names with
  | nil => exact absurd rfl hnames
  | cons name above =>
    obtain ⟨place, hwalk, hplace⟩ := leadsToDirectory_eq_true.mp hleads
    have hexists : tree.createDir from_ (name :: above).reverse = .error .alreadyExists := by
      unfold createDir
      rw [hwalk]
      simp [bind, Except.bind, hplace]
    simp only [createAbove, hexists, hleads, if_true]

/-- A directory that was made is not made again in a tree that has all directories. -/
theorem createDirs_of_directories {p : Path} (hsteps : p.steps ≠ [])
    (hmade : tree.createDirs p = (.ok (), made))
    (hwd : tree'.workingDirectory = tree.workingDirectory)
    (hdirs : ∀ b, made.lookup b = some .directory → tree'.lookup b = some .directory) :
    tree'.createDirs p = (.ok (), tree') := by
  have hnames : p.steps.reverse ≠ [] := by simpa using hsteps
  unfold createDirs at hmade ⊢
  split_ifs at hmade ⊢
  · cases hmade
  · cases hmade
  · rw [start_congr hwd]
    refine createAbove_of_leadsToDirectory hnames ?_
    exact leadsToDirectory_of_directories hdirs (leadsToDirectory_of_createAbove hnames hmade)

end Directories

end Medallion.FileTree
