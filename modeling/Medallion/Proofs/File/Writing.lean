import Medallion.Proofs.File.Walk

/-!
# What writing changes

`Changes places writes tree tree'` says how a file tree becomes another one by writing some
files, one after the other:

* every directory stays a directory, and new ones come at the given places only;
* a place holds what the last write to it put there (`lastWrite`), or else the file that it
  held before;
* every path that was written to still leads to its file.

Such changes can be put together (`Changes.trans`).  Making directories is a change without
a write (`createDirs_changes`), also when it fails, and writing a file is a change with one
(`write_changes`).
-/

namespace Medallion.FileTree

open Location

/-! ## One node -/

theorem lookup_setEntry (at_ b : Location) (node : Node) (entries : List (Location × Node)) :
    (setEntry at_ node entries).lookup b =
      if b = at_ then some node else entries.lookup b := by
  induction entries with
  | nil =>
    by_cases hb : b = at_
    · simp [setEntry, hb]
    · simp [setEntry, List.lookup_cons, beq_false_of_ne hb, hb]
  | cons entry entries ih =>
    obtain ⟨p, old⟩ := entry
    by_cases hp : p = at_
    · subst hp
      by_cases hb : b = p
      · simp [setEntry, hb]
      · simp [setEntry, List.lookup_cons, beq_false_of_ne hb, hb]
    · rw [setEntry, if_neg hp]
      by_cases hb : b = p
      · subst hb
        rw [List.lookup_cons_self, List.lookup_cons_self, if_neg hp]
      · simp only [List.lookup_cons, beq_false_of_ne hb]
        exact ih

/-- The root is a directory whatever the entries are, so nothing can be set there. -/
theorem lookup_set {tree : FileTree} {at_ : Location} {node : Node}
    (hnode : tree.lookup at_ ≠ some .directory) (b : Location) :
    (tree.set at_ node).lookup b = if b = at_ then some node else tree.lookup b := by
  unfold lookup set
  by_cases hb : b = []
  · subst hb
    have hroot : ¬ [] = at_ := by
      rintro rfl
      exact hnode rfl
    rw [if_pos rfl, if_pos rfl, if_neg hroot]
  · rw [if_neg hb, if_neg hb]
    exact lookup_setEntry at_ b node tree.entries

/-- What the file at a place holds, if there is a file. -/
def fileAt (tree : FileTree) (at_ : Location) : Option Content :=
  match tree.lookup at_ with
  | some (.file content) => some content
  | _ => none

theorem fileAt_eq_some {tree : FileTree} {at_ : Location} {content : Content} :
    tree.fileAt at_ = some content ↔ tree.lookup at_ = some (.file content) := by
  unfold fileAt
  split <;> simp_all

/-- A path reads as what the file at its place holds. -/
theorem read_of_fileAt {tree : FileTree} {p : Path} {at_ : Location} {content : Content}
    (hresolve : tree.resolve p = .ok at_) (hfile : tree.fileAt at_ = some content) :
    tree.read p = .ok content := by
  rw [fileAt_eq_some] at hfile
  unfold read node
  rw [hresolve]
  dsimp only [bind, Except.bind]
  rw [hfile]

/-- What a path reads as is what the file at its place holds. -/
theorem read_eq_ok {tree : FileTree} {p : Path} {content : Content}
    (hread : tree.read p = .ok content) :
    tree.resolve p = .ok (tree.place p) ∧ tree.fileAt (tree.place p) = some content := by
  unfold read node at hread
  cases hresolve : tree.resolve p with
  | error e => simp [hresolve, bind, Except.bind] at hread
  | ok at_ =>
    obtain rfl := resolve_eq_ok hresolve
    rw [hresolve] at hread
    dsimp only [bind, Except.bind] at hread
    rw [fileAt_eq_some]
    cases hnode : tree.lookup (tree.place p) with
    | none => simp [hnode] at hread
    | some node =>
      cases node with
      | directory => simp [hnode] at hread
      | file found =>
        simp only [hnode, Except.ok.injEq] at hread
        exact ⟨rfl, by rw [hread]⟩

theorem read_congr {tree : FileTree} {p q : Path} (h : tree.resolve p = tree.resolve q) :
    tree.read p = tree.read q := by
  unfold read node
  rw [h]

/-! ## Changes -/

/-- What the last of some writes to a place puts there. -/
def lastWrite (tree : FileTree) (writes : List (Path × Content)) (at_ : Location) :
    Option Content :=
  ((writes.filter fun w => tree.place w.1 = at_).getLast?).map (·.2)

theorem lastWrite_append (tree : FileTree) (writes more : List (Path × Content))
    (at_ : Location) :
    tree.lastWrite (writes ++ more) at_ =
      (tree.lastWrite more at_).or (tree.lastWrite writes at_) := by
  rw [lastWrite, lastWrite, lastWrite, List.filter_append, List.getLast?_append]
  cases (more.filter fun w => tree.place w.1 = at_).getLast? with
  | none => rfl
  | some w => rfl

theorem mem_of_lastWrite {tree : FileTree} {writes : List (Path × Content)} {at_ : Location}
    {content : Content} (hlast : tree.lastWrite writes at_ = some content) :
    ∃ w ∈ writes, tree.place w.1 = at_ ∧ w.2 = content := by
  obtain ⟨w, hw, rfl⟩ := Option.map_eq_some_iff.mp hlast
  have hmem := List.mem_of_getLast? hw
  rw [List.mem_filter, decide_eq_true_eq] at hmem
  exact ⟨w, hmem.1, hmem.2, rfl⟩

theorem lastWrite_ne_none {tree : FileTree} {writes : List (Path × Content)} {at_ : Location}
    (hwritten : ∃ w ∈ writes, tree.place w.1 = at_) : tree.lastWrite writes at_ ≠ none := by
  obtain ⟨w, hw, hplace⟩ := hwritten
  have hmem : w ∈ writes.filter fun v => tree.place v.1 = at_ := by
    rw [List.mem_filter, decide_eq_true_eq]
    exact ⟨hw, hplace⟩
  unfold lastWrite
  rw [Ne, Option.map_eq_none_iff, List.getLast?_eq_none_iff]
  exact List.ne_nil_of_mem hmem

/-- Writes that put the same at a place are as good as the last of them. -/
theorem lastWrite_eq_some {tree : FileTree} {writes : List (Path × Content)} {at_ : Location}
    {content : Content} (hwritten : ∃ w ∈ writes, tree.place w.1 = at_)
    (hsame : ∀ w ∈ writes, tree.place w.1 = at_ → w.2 = content) :
    tree.lastWrite writes at_ = some content := by
  obtain ⟨last, hlast⟩ := Option.ne_none_iff_exists'.mp (lastWrite_ne_none hwritten)
  obtain ⟨v, hv, hvplace, rfl⟩ := mem_of_lastWrite hlast
  rw [hlast, hsame v hv hvplace]

theorem lastWrite_eq_none {tree : FileTree} {writes : List (Path × Content)} {at_ : Location}
    (helsewhere : ∀ w ∈ writes, tree.place w.1 ≠ at_) : tree.lastWrite writes at_ = none := by
  rw [Option.eq_none_iff_forall_ne_some]
  intro content hlast
  obtain ⟨w, hw, hplace, -⟩ := mem_of_lastWrite hlast
  exact helsewhere w hw hplace

theorem lastWrite_singleton (tree : FileTree) (w : Path × Content) :
    tree.lastWrite [w] (tree.place w.1) = some w.2 :=
  lastWrite_eq_some ⟨w, List.mem_singleton_self w, rfl⟩ fun v hv _ => by
    rw [List.mem_singleton.mp hv]

/-- A write counts if none of those behind it goes to the same place. -/
theorem lastWrite_append_cons {tree : FileTree} {w : Path × Content}
    {before after : List (Path × Content)}
    (hafter : ∀ v ∈ after, tree.place v.1 ≠ tree.place w.1) :
    tree.lastWrite (before ++ w :: after) (tree.place w.1) = some w.2 := by
  have hparts : before ++ w :: after = before ++ ([w] ++ after) := rfl
  rw [hparts, lastWrite_append, lastWrite_append, lastWrite_eq_none hafter, Option.none_or,
    lastWrite_singleton, Option.some_or]

theorem lastWrite_congr {tree tree' : FileTree}
    (hwd : tree'.workingDirectory = tree.workingDirectory) (writes : List (Path × Content))
    (at_ : Location) : tree'.lastWrite writes at_ = tree.lastWrite writes at_ := by
  simp only [lastWrite, place_congr hwd]

/-- A file tree becomes another one by some writes, and by new directories at some of the
given places. -/
structure Changes (places : Location → Prop) (writes : List (Path × Content))
    (tree tree' : FileTree) : Prop where
  workingDirectory : tree'.workingDirectory = tree.workingDirectory
  directory : ∀ at_, tree.lookup at_ = some .directory → tree'.lookup at_ = some .directory
  newDirectory : ∀ at_, tree'.lookup at_ = some .directory →
    tree.lookup at_ = some .directory ∨ places at_
  file : ∀ at_, tree'.fileAt at_ = (tree.lastWrite writes at_).or (tree.fileAt at_)
  reached : ∀ w ∈ writes, tree'.resolve w.1 = .ok (tree.place w.1)

namespace Changes

variable {places places' : Location → Prop} {writes more : List (Path × Content)}
  {tree tree' tree'' : FileTree}

theorem refl : Changes places [] tree tree :=
  ⟨rfl, fun _ h => h, fun _ h => .inl h, fun _ => rfl, by simp⟩

theorem mono (hchanges : Changes places writes tree tree')
    (hplaces : ∀ at_, places at_ → places' at_) : Changes places' writes tree tree' :=
  { hchanges with
    newDirectory := fun at_ hdir =>
      (hchanges.newDirectory at_ hdir).imp id (hplaces at_) }

theorem trans (hfirst : Changes places writes tree tree')
    (hsecond : Changes places more tree' tree'') :
    Changes places (writes ++ more) tree tree'' where
  workingDirectory := hsecond.workingDirectory.trans hfirst.workingDirectory
  directory at_ hdir := hsecond.directory at_ (hfirst.directory at_ hdir)
  newDirectory at_ hdir := by
    rcases hsecond.newDirectory at_ hdir with hdir' | hat
    · exact hfirst.newDirectory at_ hdir'
    · exact .inr hat
  file at_ := by
    rw [hsecond.file, hfirst.file, lastWrite_congr hfirst.workingDirectory, lastWrite_append,
      Option.or_assoc]
  reached w hw := by
    rcases List.mem_append.mp hw with hw | hw
    · exact resolve_of_directories hsecond.workingDirectory hsecond.directory
        (hfirst.reached w hw)
    · rw [hsecond.reached w hw, place_congr hfirst.workingDirectory]

/-- A path to a place that is not written to reads as before. -/
theorem read_of_not_written (hchanges : Changes places writes tree tree') {p : Path}
    {content : Content} (hread : tree.read p = .ok content)
    (hlast : tree.lastWrite writes (tree.place p) = none) : tree'.read p = .ok content := by
  obtain ⟨hresolve, hfile⟩ := read_eq_ok hread
  refine read_of_fileAt
    (resolve_of_directories hchanges.workingDirectory hchanges.directory hresolve) ?_
  rw [hchanges.file, hlast, Option.none_or, hfile]

/-- Every write can be read back if and only if writes to the same place write the same. -/
theorem read_back_iff (hchanges : Changes places writes tree tree') :
    (∀ w ∈ writes, tree'.read w.1 = .ok w.2) ↔
      ∀ w ∈ writes, ∀ w' ∈ writes, tree.place w.1 = tree.place w'.1 → w.2 = w'.2 := by
  constructor
  · intro hback w hw w' hw' hplace
    have hresolve : tree'.resolve w.1 = tree'.resolve w'.1 := by
      rw [hchanges.reached w hw, hchanges.reached w' hw', hplace]
    have hread := read_congr hresolve
    rw [hback w hw, hback w' hw'] at hread
    exact Except.ok.inj hread
  · intro hsame w hw
    refine read_of_fileAt (hchanges.reached w hw) ?_
    have hlast : tree.lastWrite writes (tree.place w.1) = some w.2 :=
      lastWrite_eq_some ⟨w, hw, rfl⟩ fun v hv hplace => hsame v hv w hw hplace
    rw [hchanges.file, hlast, Option.some_or]

end Changes

/-! ## Making directories -/

/-- The places on the way that some names lead. -/
def OnWay (from_ : Location) (names : List String) (at_ : Location) : Prop :=
  ∃ before, before <+: names ∧ at_ = follow from_ before

theorem OnWay.append {from_ at_ : Location} {names : List String}
    (hway : OnWay from_ names at_) (more : List String) :
    OnWay from_ (names ++ more) at_ := by
  obtain ⟨before, hbefore, rfl⟩ := hway
  exact ⟨before, hbefore.trans (List.prefix_append names more), rfl⟩

/-- On the way that more names lead. -/
theorem OnWay.of_append {from_ at_ : Location} {names more : List String}
    (hway : OnWay from_ (names ++ more) at_) :
    OnWay from_ names at_ ∨
      ∃ before, before <+: more ∧ before ≠ [] ∧ at_ = follow (follow from_ names) before := by
  obtain ⟨before, ⟨rest, hrest⟩, rfl⟩ := hway
  rcases List.append_eq_append_iff.mp hrest with ⟨mid, rfl, -⟩ | ⟨mid, rfl, hmore⟩
  · exact .inl ⟨before, List.prefix_append before mid, rfl⟩
  · by_cases hmid : mid = []
    · subst hmid
      exact .inl ⟨names ++ [], by simp, rfl⟩
    · exact .inr ⟨mid, ⟨rest, hmore.symm⟩, hmid, follow_append from_ names mid⟩

/-- A walk that gets to its end goes through directories. -/
theorem directory_of_onWay {tree : FileTree} {from_ place at_ : Location} {names : List String}
    (hwalk : tree.walk from_ names = .ok place)
    (hway : OnWay from_ (names.filter (!Path.isHere ·)) at_) :
    tree.lookup at_ = some .directory ∨ at_ = place := by
  induction names generalizing from_ at_ with
  | nil =>
    obtain ⟨before, hbefore, rfl⟩ := hway
    obtain rfl := List.prefix_nil.mp hbefore
    cases hwalk
    exact .inr rfl
  | cons name names ih =>
    obtain ⟨before, hbefore, rfl⟩ := hway
    simp only [walk] at hwalk
    split at hwalk
    · cases hwalk
    · cases hwalk
    · rename_i hdirectory
      by_cases hhere : Path.isHere name
      · rw [if_pos hhere] at hwalk
        rw [List.filter_cons_of_neg (by simp [hhere])] at hbefore
        exact ih hwalk ⟨before, hbefore, rfl⟩
      · rw [if_neg hhere] at hwalk
        rw [List.filter_cons_of_pos (by simp [hhere]), List.prefix_cons_iff] at hbefore
        rcases hbefore with rfl | ⟨rest, rfl, hrest⟩
        · exact .inl hdirectory
        · rw [follow, if_neg hhere]
          split_ifs at hwalk ⊢
          · exact ih hwalk ⟨rest, hrest, rfl⟩
          · exact ih hwalk ⟨rest, hrest, rfl⟩

/-- With no file on its way, a path that is not too long leads somewhere or meets a
directory that is missing. -/
theorem resolve_ok_or_notFound {tree : FileTree} {p : Path} (hfits : p.Fits)
    (htext : p.text ≠ "")
    (hfiles : ∀ b, OnWay (tree.start p) p.steps b → tree.fileAt b = none) :
    tree.resolve p = .ok (tree.place p) ∨ tree.resolve p = .error .notFound := by
  unfold resolve
  rw [if_neg htext, if_neg (by simpa using hfits.no_null), if_neg (by have := hfits.short; omega)]
  refine walk_ok_or_notFound hfits.names_short fun before name after content hnames hfile => ?_
  have hprefix : before.filter (!Path.isHere ·) <+: p.steps := by
    unfold Path.steps
    rw [hnames]
    exact (List.prefix_append before (name :: after)).filter _
  have hnone := hfiles _ ⟨_, hprefix, rfl⟩
  rw [follow_filter] at hnone
  rw [fileAt_eq_some.mpr hfile] at hnone
  cases hnone

theorem createDir_changes {tree made : FileTree} {from_ : Location} {names : List String}
    (hmade : tree.createDir from_ names = .ok made) :
    Changes (OnWay from_ names) [] tree made := by
  unfold createDir at hmade
  cases hwalk : tree.walk from_ names with
  | error e => simp [hwalk, bind, Except.bind] at hmade
  | ok at_ =>
    cases hnode : tree.lookup at_ with
    | some node => simp [hwalk, hnode, bind, Except.bind] at hmade
    | none =>
      simp only [hwalk, hnode, bind, Except.bind, Except.ok.injEq] at hmade
      subst hmade
      have hlookup := @lookup_set tree at_ .directory (by simp [hnode])
      refine ⟨rfl, fun b hdir => ?_, fun b hdir => ?_, fun b => ?_, by simp⟩
      · rw [hlookup]
        split_ifs
        · rfl
        · exact hdir
      · rw [hlookup] at hdir
        split_ifs at hdir with hb
        · exact .inr ⟨names, List.prefix_refl names, hb.trans (walk_eq_ok hwalk)⟩
        · exact .inl hdir
      · unfold fileAt
        rw [hlookup]
        split_ifs with hb
        · rw [hb, hnode]
          rfl
        · rfl

/-- The names of `createAbove` stand in reverse. -/
theorem createAbove_changes (from_ : Location) (names : List String) (tree : FileTree) :
    Changes (OnWay from_ names.reverse) [] tree (createAbove from_ names tree).2 := by
  -- on the names from the last one upwards, as the directories are tried
  induction names generalizing tree with
  | nil => exact .refl
  | cons name above ih =>
    have habove : Changes (OnWay from_ (name :: above).reverse) [] tree
        (createAbove from_ above tree).2 := by
      refine (ih tree).mono fun at_ hway => ?_
      rw [List.reverse_cons]
      exact hway.append [name]
    simp only [createAbove]
    cases hmade : tree.createDir from_ (name :: above).reverse with
    | ok made => exact createDir_changes hmade
    | error e =>
      cases e with
      | notFound =>
        dsimp only
        rcases hres : createAbove from_ above tree with ⟨_ | _, mid⟩ <;> rw [hres] at habove
        · exact habove
        · dsimp only at habove ⊢
          cases hlast : mid.createDir from_ (name :: above).reverse with
          | ok made => exact habove.trans (createDir_changes hlast)
          | error e => exact habove
      | _ => exact .refl

theorem createDirs_changes (tree : FileTree) (p : Path) :
    Changes (OnWay (tree.start p) p.steps) [] tree (tree.createDirs p).2 := by
  unfold createDirs
  split_ifs
  · exact .refl
  · exact .refl
  · simpa using createAbove_changes (tree.start p) p.steps.reverse tree

/-! ## Writing a file -/

theorem write_changes {tree made : FileTree} {p : Path} {content : Content}
    (hwrite : tree.write p content = .ok made) :
    Changes (fun _ => False) [(p, content)] tree made := by
  unfold write at hwrite
  cases hresolve : tree.resolve p with
  | error e => simp [hresolve, bind, Except.bind] at hwrite
  | ok at_ =>
    obtain rfl := resolve_eq_ok hresolve
    simp only [hresolve, bind, Except.bind] at hwrite
    have hnode : tree.lookup (tree.place p) ≠ some .directory := by
      intro hdir
      simp [hdir] at hwrite
    have hmade : made = tree.set (tree.place p) (.file content) := by
      split at hwrite
      · contradiction
      · exact (Except.ok.inj hwrite).symm
    subst hmade
    have hlookup := @lookup_set tree (tree.place p) (.file content) hnode
    have hkeep (b : Location) (hdir : tree.lookup b = some .directory) :
        (tree.set (tree.place p) (.file content)).lookup b = some .directory := by
      rw [hlookup, if_neg, hdir]
      rintro rfl
      exact hnode hdir
    refine ⟨rfl, hkeep, fun b hdir => ?_, fun b => ?_, fun w hw => ?_⟩
    · rw [hlookup] at hdir
      split_ifs at hdir
      · simp at hdir
      · exact .inl hdir
    · unfold fileAt lastWrite
      rw [hlookup]
      by_cases hb : b = tree.place p
      · simp [hb]
      · simp [hb, Ne.symm hb]
    · obtain rfl := List.mem_singleton.mp hw
      exact @resolve_of_directories tree _ _ _ rfl hkeep hresolve

end Medallion.FileTree
