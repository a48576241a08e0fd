import Medallion.Proofs.Names

/-!
# Cleansing lists of names

Cleansing goes through a list from left to right and keeps a name unless it has been kept
before (`foldl_addNew`).  So it keeps the first occurrence of each name, in their order, and of
a second list those names that the first one lacks (`cleanse_reference`).

A list is cleansed once when a table is read and once more wherever its names are used.  The
second time drops the names that are markers of an empty number.  There are such names if and
only if a text hides a marker: it is none as it is written, and it becomes one when it is
stripped (`HidesMarker`).  Without such a text cleansing is idempotent, with one it is not
(`cleanse_again_iff`).
-/

namespace Medallion.Name

open Text

/-! ## First occurrences -/

theorem eraseDups_of_nodup {names : List String} (hnames : names.Nodup) :
    names.eraseDups = names := by
  induction names with
  | nil => rfl
  | cons name names ih =>
    obtain ⟨hname, hrest⟩ := List.nodup_cons.mp hnames
    have hkept : names.filter (fun other => !other == name) = names := by
      rw [List.filter_eq_self]
      intro other hother
      have hne : other ≠ name := by
        rintro rfl
        exact hname hother
      simp [hne]
    rw [List.eraseDups_cons, hkept, ih hrest]

/-- Appends a name unless it is there. -/
def addNew (names : List String) (name : String) : List String :=
  if name ∈ names then names else names ++ [name]

theorem mem_addNew {names : List String} {name other : String} :
    other ∈ addNew names name ↔ other ∈ names ∨ other = name := by
  unfold addNew
  split
  · rename_i hname
    constructor
    · exact .inl
    · rintro (hother | rfl)
      · exact hother
      · exact hname
  · simp

/-- Going through some names appends those that have not been kept before, each once. -/
theorem foldl_addNew (kept names : List String) :
    names.foldl addNew kept =
      kept ++ names.eraseDups.filter fun name => decide (name ∉ kept) := by
  induction names generalizing kept with
  | nil => simp
  | cons name names ih =>
    have hrest : ∀ other ∈ names.eraseDups,
        decide (other ∉ addNew kept name) = (decide (other ∉ kept) && !other == name) := by
      intro other _
      simp [mem_addNew, Bool.beq_eq_decide_eq]
    rw [List.foldl_cons, ih, List.filter_congr hrest, List.eraseDups_cons, ← filter_eraseDups,
      List.filter_cons, List.filter_filter]
    by_cases hname : name ∈ kept
    · rw [addNew, if_pos hname, if_neg (by simpa using hname)]
    · rw [addNew, if_neg hname, if_pos (by simpa using hname), List.append_assoc,
        List.singleton_append]

theorem cleanse_eq_foldl (texts : List (Option String)) :
    cleanse texts = (texts.filterMap cleanse?).foldl addNew [] := by
  simp [cleanse, foldl_addNew]

theorem cleanse_append (texts more : List (Option String)) :
    cleanse (texts ++ more) =
      cleanse texts ++ (cleanse more).filter fun name => decide (name ∉ cleanse texts) := by
  rw [cleanse_eq_foldl (texts ++ more), List.filterMap_append, List.foldl_append,
    ← cleanse_eq_foldl, foldl_addNew]
  rfl

/-- Cleansing keeps the first occurrence of each name that the texts stand for.  What it keeps
is cleansed, and of a second list it keeps what the first one lacks. -/
theorem cleanse_reference (texts : List (Option String)) :
    cleanse texts = (texts.filterMap cleanse?).foldl addNew [] ∧
      InFirstOrder (texts.filterMap cleanse?) (cleanse texts) ∧
      (cleanse texts).Nodup ∧
      (∀ name ∈ cleanse texts, IsCleansed name) ∧
      ∀ more, cleanse (texts ++ more) =
        cleanse texts ++ (cleanse more).filter fun name => decide (name ∉ cleanse texts) := by
  refine ⟨cleanse_eq_foldl texts, inFirstOrder_eraseDups _, nodup_cleanse texts, ?_,
    cleanse_append texts⟩
  intro name hname
  exact isCleansed_of_mem_cleanse hname

/-- Two spellings of `A` and a marker in the first list, `A` once more in the second one. -/
theorem cleanse_reference_spellings :
    cleanse [some " A", none, some "B", some "NaN", some "A\u200B", some "B\u3000"] =
        ["A", "B"] ∧
      IsCleansed "A" ∧
      cleanse ([some " A", none, some "B", some "NaN", some "A\u200B", some "B\u3000"] ++
          [some "C", some "\u00A0A "]) = ["A", "B"] ++ ["C"] := by
  have hfirst : cleanse [some " A", none, some "B", some "NaN", some "A\u200B", some "B\u3000"] =
      ["A", "B"] := by decide +kernel
  have hmore : cleanse [some "C", some "\u00A0A "] = ["C", "A"] := by decide +kernel
  obtain ⟨-, -, -, hcleansed, happend⟩ := cleanse_reference
    [some " A", none, some "B", some "NaN", some "A\u200B", some "B\u3000"]
  refine ⟨hfirst, hcleansed "A" (by simp [hfirst]), ?_⟩
  rw [happend, hfirst, hmore]
  decide

/-! ## Cleansing once more -/

/-- Whether a text is no marker and becomes one when it is stripped. -/
def HidesMarker (s : String) : Prop :=
  s ∉ nullMarkers ∧ String.ofList (strip s.toList) ∈ nullMarkers

/-- Of names that have been cleansed all but the markers are left. -/
theorem filterMap_cleanse? {names : List String} (hnames : ∀ name ∈ names, IsCleansed name) :
    (names.map some).filterMap cleanse? =
      names.filter fun name => decide (name ∉ nullMarkers) := by
  induction names with
  | nil => rfl
  | cons name names ih =>
    obtain ⟨hname, hrest⟩ := List.forall_mem_cons.mp hnames
    rw [List.map_cons, List.filterMap_cons, cleanse?_eq_of_isCleansed hname, ih hrest]
    by_cases hmarker : name ∈ nullMarkers
    · simp [hmarker]
    · simp [hmarker]

theorem exists_marker_iff {texts : List (Option String)} :
    (∃ name ∈ cleanse texts, name ∈ nullMarkers) ↔ ∃ s, some s ∈ texts ∧ HidesMarker s := by
  constructor
  · rintro ⟨name, hname, hmarker⟩
    obtain ⟨s, htext, hname⟩ := mem_cleanse_iff_exists.mp hname
    obtain ⟨hs, rfl, -⟩ := cleanse?_eq_some_iff.mp hname
    exact ⟨s, htext, hs, hmarker⟩
  · rintro ⟨s, htext, hs, hmarker⟩
    have hne : String.ofList (strip s.toList) ≠ "" := by
      intro hempty
      rw [hempty] at hmarker
      revert hmarker
      decide
    have hname := cleanse?_eq_some_iff.mpr ⟨hs, rfl, hne⟩
    exact ⟨_, mem_cleanse_iff_exists.mpr ⟨s, htext, hname⟩, hmarker⟩

/-- Cleansing again drops the markers that have come to light.  There are some, and cleansing
is not idempotent, if and only if a text hides one. -/
theorem cleanse_again_iff (texts : List (Option String)) :
    cleanse ((cleanse texts).map some) =
        (cleanse texts).filter (fun name => decide (name ∉ nullMarkers)) ∧
      ((∀ name ∈ cleanse texts, name ∉ nullMarkers) ↔
        ∀ s, some s ∈ texts → ¬HidesMarker s) ∧
      (cleanse ((cleanse texts).map some) = cleanse texts ↔
        ∀ s, some s ∈ texts → ¬HidesMarker s) := by
  have hcleansed : ∀ name ∈ cleanse texts, IsCleansed name := by
    intro name hname
    exact isCleansed_of_mem_cleanse hname
  have hmarkers : (∀ name ∈ cleanse texts, name ∉ nullMarkers) ↔
      ∀ s, some s ∈ texts → ¬HidesMarker s := by
    have hexists := not_congr (@exists_marker_iff texts)
    push Not at hexists
    exact hexists
  have hagain : cleanse ((cleanse texts).map some) =
      (cleanse texts).filter fun name => decide (name ∉ nullMarkers) := by
    rw [cleanse, filterMap_cleanse? hcleansed]
    exact eraseDups_of_nodup ((nodup_cleanse texts).filter _)
  refine ⟨hagain, hmarkers, ?_⟩
  rw [hagain, ← hmarkers, List.filter_eq_self]
  simp

/-- A zero-width space hides a marker: the name it leaves is gone when it is cleansed again. -/
theorem cleanse_not_idempotent :
    cleanse [some "\u200BNaN"] = ["NaN"] ∧
      cleanse ((cleanse [some "\u200BNaN"]).map some) = [] := by
  decide +kernel

end Medallion.Name
