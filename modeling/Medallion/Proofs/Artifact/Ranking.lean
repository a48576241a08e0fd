import Medallion.Artifact.TargetSchema
import Medallion.Proofs.Names
import Medallion.Proofs.Sheet.Position

/-!
# Columns in the order of their positions

The rows of a table that have a position stand in exactly one order that ascends by position
and keeps rows that are level in the order of the sheet (`IsRanking`, `existsUnique_ranking`).
The positioned columns of a schema are the target columns of the rows in this order, each of
them where it first occurs (`isPositioned_iff`): of two rows with the same target column, the
one that ranks first decides.

The number of a row stands for its place on the sheet, so it is needed that the rows are
numbered upwards.  The rows of a specification that is read from a table are
(`Specification.pairwise_line_ofTable`).
-/

namespace Medallion

/-! ## Stable sorting -/

/-- Sorting keeps the order of elements that are level with one another. -/
theorem filter_mergeSort {α : Type} {le : α → α → Bool} {p : α → Bool}
    (htrans : ∀ a b c, le a b = true → le b c = true → le a c = true)
    (htotal : ∀ a b, (le a b || le b a) = true)
    (hlevel : ∀ a b, p a = true → p b = true → le a b = true) (xs : List α) :
    (xs.mergeSort le).filter p = xs.filter p := by
  have hsorted : (xs.filter p).Pairwise fun a b => le a b = true := by
    rw [List.pairwise_iff_forall_sublist]
    intro a b hab
    have ha := List.mem_filter.mp (hab.subset List.mem_cons_self)
    have hb := List.mem_filter.mp (hab.subset (List.mem_cons_of_mem a (List.mem_singleton_self b)))
    exact hlevel a b ha.2 hb.2
  have hsub : (xs.filter p).Sublist ((xs.mergeSort le).filter p) := by
    have hall := List.sublist_mergeSort htrans htotal hsorted List.filter_sublist
    have hkept : (xs.filter p).filter p = xs.filter p := by
      rw [List.filter_filter]
      simp only [Bool.and_self]
    rw [← hkept]
    exact hall.filter p
  have hlength : (xs.filter p).length = ((xs.mergeSort le).filter p).length :=
    ((List.mergeSort_perm xs le).filter p).length_eq.symm
  exact (hsub.eq_of_length hlength).symm

/-! ## Rankings -/

section Rankings

variable {cell : MappingRow → Cell} {rows ranked ranked' : List MappingRow}

/-- Whether a row comes in front of another one: its position is less, or the positions are
level and it has the lower number. -/
def MappingRow.Precedes (cell : MappingRow → Cell) (a b : MappingRow) : Prop :=
  (cell a).cmpPosition (cell b) = .lt ∨
    ((cell a).cmpPosition (cell b) = .eq ∧ a.line < b.line)

instance (a b : MappingRow) : Decidable (a.Precedes cell b) :=
  inferInstanceAs (Decidable (_ ∨ _))

/-- Whether some rows are those of a list that have a position, each in front of those that it
precedes. -/
structure IsRanking (cell : MappingRow → Cell) (rows ranked : List MappingRow) : Prop where
  perm : ranked.Perm (rows.filter fun row => !(cell row).isNull)
  ordered : ranked.Pairwise (MappingRow.Precedes cell)

theorem MappingRow.Precedes.asymm {a b : MappingRow} (hab : a.Precedes cell b) :
    ¬ b.Precedes cell a := by
  have hswap : (cell b).cmpPosition (cell a) = ((cell a).cmpPosition (cell b)).swap :=
    Std.OrientedCmp.eq_swap
  rcases hab with hlt | ⟨heq, hline⟩
  · rw [hlt] at hswap
    rintro (hlt' | ⟨heq', -⟩)
    · cases hswap.symm.trans hlt'
    · cases hswap.symm.trans heq'
  · rw [heq] at hswap
    rintro (hlt' | ⟨-, hline'⟩)
    · cases hswap.symm.trans hlt'
    · omega

theorem IsRanking.unique (h : IsRanking cell rows ranked) (h' : IsRanking cell rows ranked') :
    ranked = ranked' :=
  (h.perm.trans h'.perm.symm).eq_of_pairwise
    (fun _ _ _ _ hab hba => absurd hba hab.asymm) h.ordered h'.ordered

theorem positionLE_trans (cell : MappingRow → Cell) (a b c : MappingRow)
    (hab : (cell a).positionLE (cell b) = true) (hbc : (cell b).positionLE (cell c) = true) :
    (cell a).positionLE (cell c) = true :=
  Cell.positionLE_trans hab hbc

theorem positionLE_total (cell : MappingRow → Cell) (a b : MappingRow) :
    ((cell a).positionLE (cell b) || (cell b).positionLE (cell a)) = true :=
  Cell.positionLE_total (cell a) (cell b)

/-- Rows that are level are sorted as they stand on the sheet. -/
theorem sublist_of_level {a b : MappingRow}
    (hab : [a, b].Sublist (rows.mergeSort fun a b => (cell a).positionLE (cell b)))
    (hlevel : (cell a).isLevel (cell b) = true) : [a, b].Sublist rows := by
  have hkept : [a, b].filter (fun row => (cell a).isLevel (cell row)) = [a, b] := by
    simp [hlevel, Cell.isLevel_self]
  have hpair := hab.filter fun row => (cell a).isLevel (cell row)
  rw [hkept, filter_mergeSort (positionLE_trans cell) (positionLE_total cell)
    fun _ _ => Cell.positionLE_of_isLevel] at hpair
  exact hpair.trans List.filter_sublist

/-- Sorting by position gives a ranking. -/
theorem isRanking_mergeSort (hlines : rows.Pairwise fun a b => a.line < b.line) :
    IsRanking cell rows ((rows.filter fun row => !(cell row).isNull).mergeSort
      fun a b => (cell a).positionLE (cell b)) where
  perm := List.mergeSort_perm _ _
  ordered := by
    rw [List.pairwise_iff_forall_sublist]
    intro a b hab
    have hsorted := List.pairwise_mergeSort (positionLE_trans cell) (positionLE_total cell)
      (rows.filter fun row => !(cell row).isNull)
    have hle := Cell.positionLE_iff.mp (List.pairwise_iff_forall_sublist.mp hsorted hab)
    cases hcmp : (cell a).cmpPosition (cell b) with
    | lt => exact .inl hcmp
    | gt =>
      rw [hcmp] at hle
      cases hle
    | eq =>
      have hsheet : [a, b].Sublist rows :=
        (sublist_of_level hab (beq_iff_eq.mpr hcmp)).trans List.filter_sublist
      exact .inr ⟨hcmp, List.pairwise_iff_forall_sublist.mp hlines hsheet⟩

/-- Whether some names are those of the ranked rows, each where it first occurs. -/
def IsPositioned (cell : MappingRow → Cell) (rows : List MappingRow) (names : List String) :
    Prop :=
  ∃ ranked, IsRanking cell rows ranked ∧
    InFirstOrder (ranked.filterMap fun row => Name.cleanse? row.targetColumn) names

theorem isPositioned_iff {names : List String}
    (hlines : rows.Pairwise fun a b => a.line < b.line) :
    IsPositioned cell rows names ↔ names = TargetSchema.positioned cell rows := by
  have hranking : IsRanking cell rows _ := isRanking_mergeSort hlines
  have hnames : InFirstOrder _ (TargetSchema.positioned cell rows) :=
    Name.inFirstOrder_cleanse_map
  constructor
  · rintro ⟨ranked, hranked, hfirst⟩
    rw [hranked.unique hranking] at hfirst
    exact hfirst.unique hnames
  · rintro rfl
    exact ⟨_, hranking, hnames⟩

end Rankings

/-! ## Numbers of rows -/

namespace Specification

theorem line_le_of_mem {headers : List String} {line : Nat} {records : List (List Cell)}
    {row : MappingRow} (hrow : row ∈ rowsFrom headers line records) : line ≤ row.line := by
  induction records generalizing line with
  | nil => cases hrow
  | cons record records ih =>
    rcases List.mem_cons.mp hrow with rfl | hrow
    · exact Nat.le_refl line
    · exact Nat.le_of_succ_le (ih hrow)

theorem pairwise_line_rowsFrom (headers : List String) (line : Nat)
    (records : List (List Cell)) :
    (rowsFrom headers line records).Pairwise fun a b => a.line < b.line := by
  induction records generalizing line with
  | nil => exact .nil
  | cons record records ih =>
    rw [rowsFrom, List.pairwise_cons]
    exact ⟨fun row hrow => line_le_of_mem hrow, ih (line + 1)⟩

/-- The rows of a target table are numbered upwards. -/
theorem pairwise_line_ofTable (t : Table) (table : String) :
    ((ofTable t).rowsOfTarget table).Pairwise fun a b => a.line < b.line :=
  (pairwise_line_rowsFrom t.headers 1 t.records).filter _

end Specification

end Medallion
