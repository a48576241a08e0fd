import Medallion.Proofs.File.Walk
import Medallion.Store

/-!
# Where joined paths lead

Joining a relative part to a path adds its steps behind those of the path
(`steps_join`), whether or not the path is empty or ends in a slash.  So the joined path
leads from where the path leads, by the steps of the part (`place_join`).

A name that is a component (`Path.IsComponent`) is one step and leads one level down.  So
the path of an artifact has four steps behind those of the root, if its domain and its file
are components (`steps_artifactPath`).  A component without a null character is plain
(`Path.IsPlain`): it can be the name of an entry.  An artifact of a domain with a plain name
therefore stands four levels below the root of the store, and its domain, tier and file can be
read off its place (`place_artifactPath_inj`).
-/

namespace Medallion

open Location

namespace Path

/-! ## Slashes -/

theorem splitSlashes_ne_nil (cs : List Char) : splitSlashes cs ≠ [] := by
  cases cs with
  | nil => simp [splitSlashes]
  | cons c cs =>
    rw [splitSlashes]
    split_ifs
    · simp
    · split <;> simp

/-- A slash parts what is in front of it from what is behind it. -/
theorem splitSlashes_append_slash (before after : List Char) :
    splitSlashes (before ++ '/' :: after) = splitSlashes before ++ splitSlashes after := by
  induction before with
  | nil => simp [splitSlashes]
  | cons c cs ih =>
    rw [List.cons_append, splitSlashes, splitSlashes, ih]
    split_ifs
    · rfl
    · cases hsplit : splitSlashes cs with
      | nil => exact absurd hsplit (splitSlashes_ne_nil cs)
      | cons part parts => rfl

theorem splitSlashes_eq_singleton {cs : List Char} (hcs : '/' ∉ cs) : splitSlashes cs = [cs] := by
  induction cs with
  | nil => rfl
  | cons c cs ih =>
    rw [List.mem_cons, not_or] at hcs
    rw [splitSlashes, if_neg (Ne.symm hcs.1), ih hcs.2]

/-- The steps of a text with a slash in it. -/
theorem steps_append_slash (before after : String) :
    (Path.mk (before ++ "/" ++ after)).steps = (Path.mk before).steps ++ (Path.mk after).steps := by
  have hlist : (before ++ "/" ++ after).toList = before.toList ++ '/' :: after.toList := by
    simp
  rw [steps, steps, steps, names, names, names, hlist, splitSlashes_append_slash, List.map_append,
    List.filter_append]

theorem steps_empty : (Path.mk "").steps = [] := by decide

/-- A slash at the end adds no step. -/
theorem steps_append_empty (before : String) :
    (Path.mk (before ++ "/")).steps = (Path.mk before).steps := by
  have := steps_append_slash before ""
  rw [steps_empty, List.append_nil] at this
  simpa using this

/-- A text that ends in a slash. -/
theorem eq_of_endsInSlash {p : Path} (hslash : p.endsInSlash = true) :
    ∃ before : String, p.text = before ++ "/" := by
  unfold endsInSlash at hslash
  rw [beq_iff_eq, List.getLast?_eq_some_iff] at hslash
  obtain ⟨before, hbefore⟩ := hslash
  refine ⟨String.ofList before, String.toList_inj.mp ?_⟩
  rw [hbefore]
  simp

theorem steps_join (p : Path) {part : String} (hrel : (Path.mk part).isAbsolute = false) :
    (p.join part).steps = p.steps ++ (Path.mk part).steps := by
  unfold join
  rw [hrel, if_neg (by simp)]
  split_ifs with hp
  · rcases hp with hempty | hslash
    · obtain ⟨text⟩ := p
      subst hempty
      simp [steps_empty]
    · obtain ⟨before, hbefore⟩ := eq_of_endsInSlash hslash
      obtain ⟨text⟩ := p
      dsimp only at hbefore
      subst hbefore
      rw [steps_append_slash, steps_append_empty]
  · exact steps_append_slash p.text part

theorem isAbsolute_join (p : Path) {part : String} (hrel : (Path.mk part).isAbsolute = false) :
    (p.join part).isAbsolute = p.isAbsolute := by
  unfold join
  rw [hrel, if_neg (by simp)]
  by_cases hempty : p.text = ""
  · obtain ⟨text⟩ := p
    dsimp only at hempty
    subst hempty
    rw [if_pos (.inl rfl)]
    simpa [isAbsolute] using hrel
  · have hlist : p.text.toList ≠ [] := by simpa using hempty
    obtain ⟨c, cs, hcs⟩ := List.exists_cons_of_ne_nil hlist
    split_ifs
    · simp [isAbsolute, hcs]
    · simp [isAbsolute, hcs]

theorem mem_join (p : Path) {part : String} {c : Char} (hc : c ∈ part.toList) :
    c ∈ (p.join part).text.toList := by
  unfold join
  split_ifs <;> simp [hc]

/-! ## Components -/

/-- A name that is a path of one step, which leads one level down: it is not empty, has no
slash, and is neither of the names for the directory and the one above it. -/
structure IsComponent (name : String) : Prop where
  ne_empty : name ≠ ""
  ne_here : name ≠ "."
  ne_up : name ≠ ".."
  no_slash : '/' ∉ name.toList

namespace IsComponent

variable {name : String}

theorem isHere (hname : IsComponent name) : Path.isHere name = false := by
  simp [Path.isHere, hname.ne_empty, hname.ne_here]

theorem isAbsolute (hname : IsComponent name) : (Path.mk name).isAbsolute = false := by
  have hslash := hname.no_slash
  unfold Path.isAbsolute
  cases hcs : name.toList with
  | nil => rfl
  | cons c cs =>
    rw [hcs, List.mem_cons, not_or] at hslash
    simpa using Ne.symm hslash.1

theorem steps (hname : IsComponent name) : (Path.mk name).steps = [name] := by
  rw [Path.steps, names, splitSlashes_eq_singleton hname.no_slash]
  simp [hname.isHere]

theorem follow (hname : IsComponent name) (at_ : Location) :
    follow at_ [name] = at_ ++ [name] :=
  follow_singleton at_ hname.isHere hname.ne_up

end IsComponent

/-! ## Plain names -/

/-- A name that stands for an entry of a directory: it is not empty, has no slash and no
null character, and is neither of the names for the directory and the one above it. -/
structure IsPlain (name : String) : Prop where
  ne_empty : name ≠ ""
  ne_here : name ≠ "."
  ne_up : name ≠ ".."
  no_slash : '/' ∉ name.toList
  no_null : '\x00' ∉ name.toList

namespace IsPlain

variable {name : String}

instance : Decidable (IsPlain name) :=
  decidable_of_iff
    (name ≠ "" ∧ name ≠ "." ∧ name ≠ ".." ∧ '/' ∉ name.toList ∧ '\x00' ∉ name.toList)
    ⟨fun ⟨hempty, hhere, hup, hslash, hnull⟩ => ⟨hempty, hhere, hup, hslash, hnull⟩,
      fun h => ⟨h.ne_empty, h.ne_here, h.ne_up, h.no_slash, h.no_null⟩⟩

theorem isComponent (hname : IsPlain name) : IsComponent name :=
  ⟨hname.ne_empty, hname.ne_here, hname.ne_up, hname.no_slash⟩

theorem isAbsolute (hname : IsPlain name) : (Path.mk name).isAbsolute = false :=
  hname.isComponent.isAbsolute

theorem steps (hname : IsPlain name) : (Path.mk name).steps = [name] :=
  hname.isComponent.steps

theorem follow (hname : IsPlain name) (at_ : Location) : follow at_ [name] = at_ ++ [name] :=
  hname.isComponent.follow at_

end IsPlain

theorem follow_plain (at_ : Location) {names : List String}
    (hnames : ∀ name ∈ names, IsPlain name) : follow at_ names = at_ ++ names := by
  induction names generalizing at_ with
  | nil => simp
  | cons name names ih =>
    have hname := hnames name List.mem_cons_self
    have hrest := ih (at_ ++ [name]) fun n hn => hnames n (List.mem_cons_of_mem name hn)
    have hstep := follow_append at_ [name] names
    rw [hname.follow, hrest] at hstep
    simpa using hstep

theorem isPlain_tier (tier : Tier) : IsPlain tier.name := by
  cases tier <;> decide

theorem isPlain_domains : IsPlain "domains" := by decide

end Path

namespace FileTree

/-- A path that leads anywhere has no null character in it. -/
theorem no_null_of_resolve {tree : FileTree} {p : Path} {at_ : Location}
    (hresolve : tree.resolve p = .ok at_) : '\x00' ∉ p.text.toList := by
  unfold resolve at hresolve
  split_ifs at hresolve with _ hnull
  simpa using hnull

theorem place_eq_steps (tree : FileTree) (p : Path) :
    tree.place p = follow (tree.start p) p.steps := by
  rw [place, Path.steps, follow_filter]

theorem start_join (tree : FileTree) (p : Path) {part : String}
    (hrel : (Path.mk part).isAbsolute = false) : tree.start (p.join part) = tree.start p := by
  rw [start, start, p.isAbsolute_join hrel]

theorem place_join (tree : FileTree) (p : Path) {part : String}
    (hrel : (Path.mk part).isAbsolute = false) :
    tree.place (p.join part) = follow (tree.place p) (Path.mk part).steps := by
  rw [place_eq_steps, place_eq_steps, start_join tree p hrel, p.steps_join hrel, follow_append]

theorem place_join_plain (tree : FileTree) (p : Path) {name : String} (hname : Path.IsPlain name) :
    tree.place (p.join name) = tree.place p ++ [name] := by
  rw [place_join tree p hname.isAbsolute, hname.steps, hname.follow]

end FileTree

/-! ## Artifacts -/

namespace Store

variable {store : Store} {tree : FileTree} {domain domain' file file' : String}

theorem steps_tierDirectory (hdomain : Path.IsComponent domain) (tier : Tier) :
    (store.tierDirectory domain tier).steps =
      store.root.steps ++ ["domains", domain, tier.name] := by
  have htier := Path.isPlain_tier tier
  rw [tierDirectory, Path.steps_join _ htier.isAbsolute, Path.steps_join _ hdomain.isAbsolute,
    Path.steps_join _ Path.isPlain_domains.isAbsolute, htier.steps, hdomain.steps,
    Path.isPlain_domains.steps]
  simp

theorem start_tierDirectory (hdomain : Path.IsPlain domain) (tier : Tier) :
    tree.start (store.tierDirectory domain tier) = tree.start store.root := by
  rw [tierDirectory, FileTree.start_join _ _ (Path.isPlain_tier tier).isAbsolute,
    FileTree.start_join _ _ hdomain.isAbsolute,
    FileTree.start_join _ _ Path.isPlain_domains.isAbsolute]

theorem steps_artifactPath (hdomain : Path.IsComponent domain) (tier : Tier)
    (hfile : Path.IsComponent file) :
    (store.artifactPath domain tier file).steps =
      store.root.steps ++ ["domains", domain, tier.name, file] := by
  rw [artifactPath, Path.steps_join _ hfile.isAbsolute, steps_tierDirectory hdomain,
    hfile.steps, List.append_assoc]
  rfl

theorem start_artifactPath (hdomain : Path.IsPlain domain) (tier : Tier)
    (hfile : Path.IsPlain file) :
    tree.start (store.artifactPath domain tier file) = tree.start store.root := by
  rw [artifactPath, FileTree.start_join _ _ hfile.isAbsolute, start_tierDirectory hdomain]

theorem artifactPath_ne_empty (hdomain : Path.IsPlain domain) (tier : Tier)
    (hfile : Path.IsPlain file) : (store.artifactPath domain tier file).text ≠ "" := by
  intro h
  have hsteps : (store.artifactPath domain tier file).steps = [] := by
    unfold Path.steps Path.names
    rw [h]
    decide
  rw [steps_artifactPath hdomain.isComponent tier hfile.isComponent] at hsteps
  simp at hsteps

theorem place_artifactPath (hdomain : Path.IsPlain domain) (tier : Tier)
    (hfile : Path.IsPlain file) :
    tree.place (store.artifactPath domain tier file) =
      tree.place store.root ++ ["domains", domain, tier.name, file] := by
  rw [artifactPath, tierDirectory, FileTree.place_join_plain _ _ hfile,
    FileTree.place_join_plain _ _ (Path.isPlain_tier tier),
    FileTree.place_join_plain _ _ hdomain, FileTree.place_join_plain _ _ Path.isPlain_domains]
  simp

/-- What stands behind the root in the path of an artifact tells its domain, tier and file. -/
theorem behindRoot_inj {tier tier' : Tier} :
    ["domains", domain, tier.name, file] = ["domains", domain', tier'.name, file'] ↔
      domain = domain' ∧ tier = tier' ∧ file = file' := by
  constructor
  · intro h
    simp only [List.cons.injEq, true_and, and_true] at h
    obtain ⟨hd, ht, hf⟩ := h
    have hofName := congrArg Tier.ofName? ht
    rw [Tier.ofName?_name, Tier.ofName?_name] at hofName
    exact ⟨hd, Option.some.inj hofName, hf⟩
  · rintro ⟨rfl, rfl, rfl⟩
    rfl

/-- The place of an artifact tells its domain, its tier and its file. -/
theorem place_artifactPath_inj {tier tier' : Tier} (hdomain : Path.IsPlain domain)
    (hfile : Path.IsPlain file) (hdomain' : Path.IsPlain domain')
    (hfile' : Path.IsPlain file') :
    tree.place (store.artifactPath domain tier file) =
        tree.place (store.artifactPath domain' tier' file') ↔
      domain = domain' ∧ tier = tier' ∧ file = file' := by
  rw [place_artifactPath hdomain tier hfile, place_artifactPath hdomain' tier' hfile',
    List.append_right_inj, behindRoot_inj]

/-- So do the steps of its path, and so the path itself. -/
theorem steps_artifactPath_inj {tier tier' : Tier} (hdomain : Path.IsComponent domain)
    (hfile : Path.IsComponent file) (hdomain' : Path.IsComponent domain')
    (hfile' : Path.IsComponent file') :
    (store.artifactPath domain tier file).steps =
        (store.artifactPath domain' tier' file').steps ↔
      domain = domain' ∧ tier = tier' ∧ file = file' := by
  rw [steps_artifactPath hdomain tier hfile, steps_artifactPath hdomain' tier' hfile',
    List.append_right_inj, behindRoot_inj]

end Store

end Medallion
