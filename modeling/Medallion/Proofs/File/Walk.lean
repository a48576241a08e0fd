import Medallion.File.Tree
import Mathlib.Tactic.SplitIfs

/-!
# Where paths lead

A walk fails or ends at a location that the names of the path decide alone: there are no
links.  `Location.follow` is this location.  What a file tree decides is only whether the
walk gets there, so:

* two paths with the same names lead to the same place in every file tree in which both
  lead anywhere (`walk_eq_ok`);
* a walk that gets to its end still does so when directories are added
  (`walk_of_directories`);
* a walk that no file and no long name stands in the way of gets to its end, or meets a
  directory that is missing (`walk_ok_or_notFound`).
-/

namespace Medallion

namespace Location

/-- The location that some names lead to from a location, if nothing is in the way. -/
def follow (at_ : Location) : List String → Location
  | [] => at_
  | name :: names =>
    if Path.isHere name then follow at_ names
    else if name = ".." then follow at_.dropLast names
    else follow (at_ ++ [name]) names

@[simp]
theorem follow_nil (at_ : Location) : follow at_ [] = at_ := rfl

theorem follow_append (at_ : Location) (names more : List String) :
    follow at_ (names ++ more) = follow (follow at_ names) more := by
  induction names generalizing at_ with
  | nil => rfl
  | cons name names ih =>
    simp only [List.cons_append, follow]
    split_ifs
    · exact ih at_
    · exact ih at_.dropLast
    · exact ih (at_ ++ [name])

/-- A name that neither stays nor goes up leads into the directory of that name. -/
theorem follow_singleton (at_ : Location) {name : String} (hhere : Path.isHere name = false)
    (hup : name ≠ "..") : follow at_ [name] = at_ ++ [name] := by
  simp [follow, hhere, hup]

/-- The names that lead to the directory they stand in can be left out. -/
theorem follow_filter (at_ : Location) (names : List String) :
    follow at_ (names.filter (!Path.isHere ·)) = follow at_ names := by
  induction names generalizing at_ with
  | nil => rfl
  | cons name names ih =>
    by_cases hhere : Path.isHere name
    · rw [List.filter_cons_of_neg (by simp [hhere]), follow, if_pos hhere]
      exact ih at_
    · rw [List.filter_cons_of_pos (by simp [hhere]), follow, follow, if_neg hhere]
      split_ifs
      · exact ih at_.dropLast
      · exact ih (at_ ++ [name])

/-- Whether a location is inside the directory at another one. -/
def Below (root at_ : Location) : Prop := root <+: at_ ∧ at_ ≠ root

end Location

/-- A path that the file system can take: no null character, and neither the path nor one of
its names is too long. -/
structure Path.Fits (p : Path) : Prop where
  no_null : '\x00' ∉ p.text.toList
  short : p.text.utf8ByteSize < FileTree.pathLimit
  names_short : ∀ name ∈ p.names, name.utf8ByteSize ≤ FileTree.nameLimit

namespace FileTree

open Location

/-! ## Walks -/

/-- A walk that gets to its end gets to where the names lead. -/
theorem walk_eq_ok {tree : FileTree} {at_ place : Location} {names : List String}
    (hwalk : tree.walk at_ names = .ok place) : place = follow at_ names := by
  induction names generalizing at_ with
  | nil =>
    cases hwalk
    rfl
  | cons name names ih =>
    simp only [walk] at hwalk
    cases hnode : tree.lookup at_ with
    | none => simp [hnode] at hwalk
    | some node =>
      cases node with
      | file content => simp [hnode] at hwalk
      | directory =>
        simp only [hnode] at hwalk
        simp only [follow]
        split_ifs at hwalk ⊢
        · exact ih hwalk
        · exact ih hwalk
        · exact ih hwalk

/-- Whatever else changes, a walk is kept as long as its directories are. -/
theorem walk_of_directories {tree tree' : FileTree} {at_ place : Location}
    {names : List String}
    (hdirs : ∀ b, tree.lookup b = some .directory → tree'.lookup b = some .directory)
    (hwalk : tree.walk at_ names = .ok place) : tree'.walk at_ names = .ok place := by
  induction names generalizing at_ with
  | nil => exact hwalk
  | cons name names ih =>
    simp only [walk] at hwalk ⊢
    cases hnode : tree.lookup at_ with
    | none => simp [hnode] at hwalk
    | some node =>
      cases node with
      | file content => simp [hnode] at hwalk
      | directory =>
        rw [hdirs at_ hnode]
        simp only [hnode] at hwalk
        dsimp only
        split_ifs at hwalk ⊢
        · exact ih hwalk
        · exact ih hwalk
        · exact ih hwalk

/-- With no file on the way and no name that is too long, only a missing directory can
stop a walk. -/
theorem walk_ok_or_notFound {tree : FileTree} {at_ : Location} {names : List String}
    (hshort : ∀ name ∈ names, name.utf8ByteSize ≤ nameLimit)
    (hfiles : ∀ before name after content, names = before ++ name :: after →
      tree.lookup (follow at_ before) ≠ some (.file content)) :
    tree.walk at_ names = .ok (follow at_ names) ∨ tree.walk at_ names = .error .notFound := by
  induction names generalizing at_ with
  | nil => exact .inl rfl
  | cons name names ih =>
    have hname : ¬ nameLimit < name.utf8ByteSize := by
      have := hshort name (by simp)
      omega
    have hrest : ∀ n ∈ names, n.utf8ByteSize ≤ nameLimit :=
      fun n hn => hshort n (List.mem_cons_of_mem _ hn)
    simp only [walk, follow]
    cases hnode : tree.lookup at_ with
    | none => exact .inr rfl
    | some node =>
      cases node with
      | file content => exact absurd hnode (hfiles [] name names content rfl)
      | directory =>
        dsimp only
        split_ifs with hhere hup
        · refine ih hrest fun before n after content he => ?_
          have := hfiles (name :: before) n after content (by rw [he]; rfl)
          simpa only [follow, if_pos hhere] using this
        · refine ih hrest fun before n after content he => ?_
          have := hfiles (name :: before) n after content (by rw [he]; rfl)
          simpa only [follow, if_neg hhere, if_pos hup] using this
        · refine ih hrest fun before n after content he => ?_
          have := hfiles (name :: before) n after content (by rw [he]; rfl)
          simpa only [follow, if_neg hhere, if_neg hup] using this

/-! ## Paths -/

/-- The location that a path leads to, if nothing is in the way. -/
def place (tree : FileTree) (p : Path) : Location := follow (tree.start p) p.names

theorem start_congr {tree tree' : FileTree}
    (hwd : tree'.workingDirectory = tree.workingDirectory) (p : Path) :
    tree'.start p = tree.start p := by
  rw [start, start, hwd]

theorem place_congr {tree tree' : FileTree}
    (hwd : tree'.workingDirectory = tree.workingDirectory) (p : Path) :
    tree'.place p = tree.place p := by
  rw [place, place, start_congr hwd]

theorem resolve_eq_ok {tree : FileTree} {p : Path} {at_ : Location}
    (hresolve : tree.resolve p = .ok at_) : at_ = tree.place p := by
  unfold resolve at hresolve
  split_ifs at hresolve
  exact walk_eq_ok hresolve

theorem resolve_of_directories {tree tree' : FileTree} {p : Path} {at_ : Location}
    (hwd : tree'.workingDirectory = tree.workingDirectory)
    (hdirs : ∀ b, tree.lookup b = some .directory → tree'.lookup b = some .directory)
    (hresolve : tree.resolve p = .ok at_) : tree'.resolve p = .ok at_ := by
  unfold resolve at hresolve ⊢
  split_ifs at hresolve ⊢
  rw [start_congr hwd]
  exact walk_of_directories hdirs hresolve

end FileTree

end Medallion
