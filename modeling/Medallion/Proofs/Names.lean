import Medallion.Specification
import Mathlib.Data.List.DropRight
import Mathlib.Data.List.Nodup
import Mathlib.Data.List.Sort

/-!
# Lists of names

A cleansed list of names has no name twice (`nodup_cleanse`); so do the target tables and
the source tables of a specification.  Dropping repetitions keeps the first of each name, in
this order (`InFirstOrder`), and can be done before or after picking some of the names
(`filter_eraseDups`) or writing each of them differently (`eraseDups_map`).

Cleansing leaves a cleansed name as it is, unless the name is one of the markers of an empty
number, which is dropped (`Name.cleanse?_eq_of_isCleansed`).  Such a name comes about when a
marker is read with an invisible character in it.

The names in the rows of a specification that is read from a table are cleansed
(`Specification.isCleansed_of_mem`), and the lists of tables and columns cleanse them once more.
So these lists have the names of the rows without the markers (`Name.mem_cleanse_map`), in the
order of the rows (`Name.inFirstOrder_cleanse_map`).
-/

namespace Medallion

/-! ## Repetitions -/

section Repetitions

variable {α β : Type} [BEq α] [LawfulBEq α] [BEq β] [LawfulBEq β]

theorem eraseDups_concat_of_mem {xs : List α} {x : α} (hx : x ∈ xs) :
    (xs ++ [x]).eraseDups = xs.eraseDups := by
  rw [List.eraseDups_append]
  simp [List.removeAll, hx]

theorem eraseDups_concat_of_not_mem {xs : List α} {x : α} (hx : x ∉ xs) :
    (xs ++ [x]).eraseDups = xs.eraseDups ++ [x] := by
  rw [List.eraseDups_append]
  simp [List.removeAll, hx, List.eraseDups_cons]

theorem nodup_eraseDups (xs : List α) : xs.eraseDups.Nodup := by
  induction xs using List.reverseRecOn with
  | nil => exact List.nodup_nil
  | append_singleton xs x ih =>
    by_cases hx : x ∈ xs
    · rwa [eraseDups_concat_of_mem hx]
    · rw [eraseDups_concat_of_not_mem hx, ← List.concat_eq_append]
      exact List.Nodup.concat (mt List.mem_eraseDups.mp hx) ih

theorem filter_eraseDups (p : α → Bool) (xs : List α) :
    xs.eraseDups.filter p = (xs.filter p).eraseDups := by
  induction xs using List.reverseRecOn with
  | nil => rfl
  | append_singleton xs x ih =>
    rw [List.filter_append]
    by_cases hx : x ∈ xs
    · rw [eraseDups_concat_of_mem hx, ih]
      by_cases hp : p x = true
      · rw [List.filter_cons_of_pos hp, List.filter_nil,
          eraseDups_concat_of_mem (List.mem_filter.mpr ⟨hx, hp⟩)]
      · rw [List.filter_cons_of_neg hp, List.filter_nil, List.append_nil]
    · rw [eraseDups_concat_of_not_mem hx, List.filter_append, ih]
      by_cases hp : p x = true
      · rw [List.filter_cons_of_pos hp, List.filter_nil,
          eraseDups_concat_of_not_mem (mt List.mem_of_mem_filter hx)]
      · rw [List.filter_cons_of_neg hp, List.filter_nil, List.append_nil, List.append_nil]

theorem eraseDups_map {f : α → β} (hf : Function.Injective f) (xs : List α) :
    (xs.map f).eraseDups = xs.eraseDups.map f := by
  induction xs using List.reverseRecOn with
  | nil => rfl
  | append_singleton xs x ih =>
    rw [List.map_append, List.map_singleton]
    by_cases hx : x ∈ xs
    · rw [eraseDups_concat_of_mem hx, eraseDups_concat_of_mem (List.mem_map_of_mem hx), ih]
    · have hfx : f x ∉ xs.map f := by
        rw [List.mem_map_of_injective hf]
        exact hx
      rw [eraseDups_concat_of_not_mem hx, eraseDups_concat_of_not_mem hfx, ih, List.map_append,
        List.map_singleton]

end Repetitions

/-! ## First occurrences -/

/-- Whether a list has what another one has, each of it once, in the order in which it first
occurs there. -/
structure InFirstOrder {α : Type} [BEq α] (all firsts : List α) : Prop where
  mem_iff : ∀ x, x ∈ firsts ↔ x ∈ all
  ordered : firsts.Pairwise fun x y => all.idxOf x < all.idxOf y

namespace InFirstOrder

variable {α : Type} [BEq α] {all firsts firsts' : List α}

theorem nodup (h : InFirstOrder all firsts) : firsts.Nodup :=
  h.ordered.imp fun hlt heq => by
    rw [heq] at hlt
    exact absurd hlt (Nat.lt_irrefl _)

theorem unique (h : InFirstOrder all firsts) (h' : InFirstOrder all firsts') :
    firsts = firsts' := by
  have : Std.Asymm fun x y => all.idxOf x < all.idxOf y := ⟨fun _ _ => Nat.lt_asymm⟩
  refine h.ordered.eq_of_mem_iff h'.ordered fun x => ?_
  rw [h.mem_iff, h'.mem_iff]

end InFirstOrder

theorem inFirstOrder_eraseDups {α : Type} [BEq α] [LawfulBEq α] (xs : List α) :
    InFirstOrder xs xs.eraseDups where
  mem_iff x := List.mem_eraseDups
  ordered := by
    induction xs using List.reverseRecOn with
    | nil => exact .nil
    | append_singleton xs x ih =>
      have hkept : xs.eraseDups.Pairwise fun y z =>
          (xs ++ [x]).idxOf y < (xs ++ [x]).idxOf z := by
        refine ih.imp_of_mem fun hy hz hlt => ?_
        rwa [List.idxOf_append_of_mem (List.mem_eraseDups.mp hy),
          List.idxOf_append_of_mem (List.mem_eraseDups.mp hz)]
      by_cases hx : x ∈ xs
      · rwa [eraseDups_concat_of_mem hx]
      · rw [eraseDups_concat_of_not_mem hx, List.pairwise_append]
        refine ⟨hkept, List.pairwise_singleton _ _, fun y hy z hz => ?_⟩
        obtain rfl := List.mem_singleton.mp hz
        have hy := List.mem_eraseDups.mp hy
        -- a new element stands behind all that have been met
        rw [List.idxOf_append_of_mem hy, List.idxOf_append_of_notMem hx]
        exact Nat.lt_add_right _ (List.idxOf_lt_length_iff.mpr hy)

/-! ## Cleansed names -/

namespace Name

open Text

theorem nodup_cleanse (texts : List (Option String)) : (cleanse texts).Nodup :=
  nodup_eraseDups _

/-- What is left of the names that rows have in a field, in the order of the rows. -/
theorem inFirstOrder_cleanse_map {rows : List MappingRow} {field : MappingRow → Option String} :
    InFirstOrder (rows.filterMap fun row => cleanse? (field row)) (cleanse (rows.map field)) := by
  rw [cleanse, List.filterMap_map]
  exact inFirstOrder_eraseDups _

/-- Whether nothing is left to be stripped from some characters: none of them is invisible,
and there is no blank at either end. -/
structure IsStripped (cs : List Char) : Prop where
  visible : ∀ c ∈ cs, c ∉ invisible
  first : ∀ hne : cs ≠ [], isBlank (cs.head hne) = false
  last : ∀ hne : cs ≠ [], isBlank (cs.getLast hne) = false

theorem trimChars_eq (cs : List Char) :
    trimChars cs = (cs.dropWhile isBlank).rdropWhile isBlank := rfl

theorem trimChars_sublist (cs : List Char) : (trimChars cs).Sublist cs := by
  rw [trimChars_eq]
  exact (List.rdropWhile_prefix _ _).sublist.trans (List.dropWhile_suffix _).sublist

theorem isBlank_head_trimChars {cs : List Char} (hne : trimChars cs ≠ []) :
    isBlank ((trimChars cs).head hne) = false := by
  -- the blanks at the end are dropped from what starts without one
  have hfront : trimChars cs <+: cs.dropWhile isBlank := List.rdropWhile_prefix _ _
  rw [hfront.head hne]
  simpa using List.head_dropWhile_not isBlank _

theorem isBlank_getLast_trimChars {cs : List Char} (hne : trimChars cs ≠ []) :
    isBlank ((trimChars cs).getLast hne) = false := by
  have hlast := List.rdropWhile_last_not isBlank (cs.dropWhile isBlank) hne
  exact eq_false_of_ne_true hlast

theorem isStripped_strip (cs : List Char) : IsStripped (strip cs) where
  visible c hc := by
    have hmem := (trimChars_sublist _).subset hc
    simpa using (List.mem_filter.mp hmem).2
  first := isBlank_head_trimChars
  last := isBlank_getLast_trimChars

theorem strip_eq_self {cs : List Char} (hcs : IsStripped cs) : strip cs = cs := by
  have hvisible : (cs.filter fun c => !invisible.contains c) = cs := by
    rw [List.filter_eq_self]
    intro c hc
    simpa using hcs.visible c hc
  have hfirst : cs.dropWhile isBlank = cs := by
    rw [List.dropWhile_eq_self_iff]
    intro hpos
    have hne := List.ne_nil_of_length_pos hpos
    rw [← List.head_eq_getElem hne, hcs.first hne]
    exact Bool.false_ne_true
  have hlast : cs.rdropWhile isBlank = cs := by
    rw [List.rdropWhile_eq_self_iff]
    intro hne
    rw [hcs.last hne]
    exact Bool.false_ne_true
  rw [strip, hvisible, trimChars_eq, hfirst, hlast]

/-- Whether a text is a name as cleansing leaves it. -/
structure IsCleansed (name : String) : Prop where
  ne_empty : name ≠ ""
  stripped : IsStripped name.toList

/-- A text stands for what is left of it when it is stripped, if that is a name and the text is
no marker. -/
theorem cleanse?_eq_some_iff {s name : String} :
    cleanse? (some s) = some name ↔
      s ∉ nullMarkers ∧ String.ofList (strip s.toList) = name ∧ name ≠ "" := by
  unfold cleanse?
  dsimp only
  constructor
  · intro hname
    split at hname
    · cases hname
    · rename_i hs
      rw [not_or] at hs
      split at hname
      · cases hname
      · rename_i hne
        cases hname
        refine ⟨hs.2, rfl, ?_⟩
        rw [ne_eq, ← String.toList_eq_nil_iff, String.toList_ofList]
        exact hne
  · rintro ⟨hmarker, rfl, hne⟩
    rw [ne_eq, ← String.toList_eq_nil_iff, String.toList_ofList] at hne
    have hempty : s ≠ "" := by
      rintro rfl
      exact hne rfl
    rw [if_neg (by simp [hempty, hmarker])]
    split
    · contradiction
    · rfl

theorem isCleansed_of_cleanse? {text : Option String} {name : String}
    (hname : cleanse? text = some name) : IsCleansed name := by
  cases text with
  | none => cases hname
  | some s =>
    obtain ⟨-, rfl, hne⟩ := cleanse?_eq_some_iff.mp hname
    refine ⟨hne, ?_⟩
    rw [String.toList_ofList]
    exact isStripped_strip s.toList

/-- Cleansing keeps a cleansed name, unless the name is a marker. -/
theorem cleanse?_eq_of_isCleansed {name : String} (hname : IsCleansed name) :
    cleanse? (some name) = if name ∈ nullMarkers then none else some name := by
  by_cases hmarker : name ∈ nullMarkers
  · rw [cleanse?, if_pos (.inr hmarker), if_pos hmarker]
  · rw [if_neg hmarker, cleanse?_eq_some_iff, strip_eq_self hname.stripped]
    exact ⟨hmarker, String.ofList_toList, hname.ne_empty⟩

/-- What is kept of a list of texts are the names that its texts stand for. -/
theorem mem_cleanse_iff_exists {texts : List (Option String)} {name : String} :
    name ∈ cleanse texts ↔ ∃ s, some s ∈ texts ∧ cleanse? (some s) = some name := by
  rw [cleanse, List.mem_eraseDups, List.mem_filterMap]
  constructor
  · rintro ⟨text, htext, hname⟩
    cases text with
    | none => cases hname
    | some s => exact ⟨s, htext, hname⟩
  · rintro ⟨s, htext, hname⟩
    exact ⟨some s, htext, hname⟩

theorem isCleansed_of_mem_cleanse {texts : List (Option String)} {name : String}
    (hname : name ∈ cleanse texts) : IsCleansed name := by
  obtain ⟨s, -, hcleanse⟩ := mem_cleanse_iff_exists.mp hname
  exact isCleansed_of_cleanse? hcleanse

theorem mem_cleanse_of_isCleansed {texts : List (Option String)} {name : String}
    (hname : IsCleansed name) (hmem : some name ∈ texts) (hmarker : name ∉ nullMarkers) :
    name ∈ cleanse texts := by
  rw [mem_cleanse_iff_exists]
  refine ⟨name, hmem, ?_⟩
  rw [cleanse?_eq_of_isCleansed hname, if_neg hmarker]

/-- Of cleansed names all but the markers are left. -/
theorem mem_cleanse {texts : List (Option String)}
    (htexts : ∀ text ∈ texts, ∀ name ∈ text, IsCleansed name) {name : String} :
    name ∈ cleanse texts ↔ some name ∈ texts ∧ name ∉ nullMarkers := by
  constructor
  · intro hname
    obtain ⟨s, htext, hname⟩ := mem_cleanse_iff_exists.mp hname
    rw [cleanse?_eq_of_isCleansed (htexts _ htext s rfl)] at hname
    split at hname
    · cases hname
    · rename_i hmarker
      cases hname
      exact ⟨htext, hmarker⟩
  · rintro ⟨htext, hmarker⟩
    exact mem_cleanse_of_isCleansed (htexts _ htext name rfl) htext hmarker

/-- Of the cleansed names that rows have in a field, all but the markers are left. -/
theorem mem_cleanse_map {rows : List MappingRow} {field : MappingRow → Option String}
    (hfield : ∀ row ∈ rows, ∀ name ∈ field row, IsCleansed name) {name : String} :
    name ∈ cleanse (rows.map field) ↔
      (∃ row ∈ rows, field row = some name) ∧ name ∉ nullMarkers := by
  rw [mem_cleanse, List.mem_map]
  intro text htext
  obtain ⟨row, hrow, rfl⟩ := List.mem_map.mp htext
  exact hfield row hrow

end Name

/-! ## The tables of a specification -/

/-- Whether the names in a row have been cleansed. -/
structure MappingRow.IsCleansed (row : MappingRow) : Prop where
  sourceTable : ∀ name ∈ row.sourceTable, Name.IsCleansed name
  sourceColumn : ∀ name ∈ row.sourceColumn, Name.IsCleansed name
  targetTable : ∀ name ∈ row.targetTable, Name.IsCleansed name
  targetColumn : ∀ name ∈ row.targetColumn, Name.IsCleansed name

namespace Specification

section Lists

variable (spec : Specification)

theorem nodup_targetTables : spec.targetTables.Nodup := Name.nodup_cleanse _

theorem nodup_sourceTables : spec.sourceTables.Nodup := Name.nodup_cleanse _

end Lists

theorem exists_record_of_mem {headers : List String} {line : Nat} {records : List (List Cell)}
    {row : MappingRow} (hrow : row ∈ rowsFrom headers line records) :
    ∃ number record, row = MappingRow.ofRecord headers number record := by
  induction records generalizing line with
  | nil => cases hrow
  | cons record records ih =>
    rcases List.mem_cons.mp hrow with rfl | hrow
    · exact ⟨line, record, rfl⟩
    · exact ih hrow

variable {t : Table}

theorem isCleansed_of_mem {row : MappingRow} (hrow : row ∈ (ofTable t).rows) :
    row.IsCleansed := by
  obtain ⟨number, record, rfl⟩ := exists_record_of_mem hrow
  exact ⟨fun _ => Name.isCleansed_of_cleanse?, fun _ => Name.isCleansed_of_cleanse?,
    fun _ => Name.isCleansed_of_cleanse?, fun _ => Name.isCleansed_of_cleanse?⟩

theorem mem_targetTables {table : String} :
    table ∈ (ofTable t).targetTables ↔
      (∃ row ∈ (ofTable t).rows, row.targetTable = some table) ∧ table ∉ Name.nullMarkers :=
  Name.mem_cleanse_map fun _ hrow => (isCleansed_of_mem hrow).targetTable

theorem mem_sourceTables {table : String} :
    table ∈ (ofTable t).sourceTables ↔
      (∃ row ∈ (ofTable t).rows, row.sourceTable = some table) ∧ table ∉ Name.nullMarkers :=
  Name.mem_cleanse_map fun _ hrow => (isCleansed_of_mem hrow).sourceTable

end Specification

end Medallion
