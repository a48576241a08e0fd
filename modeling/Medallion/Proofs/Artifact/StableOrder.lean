import Medallion.Proofs.Artifact.Ranking

/-!
# Stable sorting by position

Rows are sorted by position so that rows that are level stay in their order (`IsStableSort`).
Comparing positions is a total preorder on all cells, so every list of rows has exactly one such
order, and sorting finds it (`isStableSort_mergeSort`, `IsStableSort.unique`).  Nothing is asked
of the rows: their numbers do not matter, as they do for a ranking.

The sort and partition columns of a schema depend on this order only (`cells_in_one_order`).
-/

namespace Medallion

section StableSorts

variable {cell : MappingRow → Cell} {rows sorted sorted' : List MappingRow}

/-- Whether some rows are those of a list, in an order that ascends by position and keeps rows
that are level in the order of the list. -/
structure IsStableSort (cell : MappingRow → Cell) (rows sorted : List MappingRow) : Prop where
  perm : sorted.Perm rows
  ascending : sorted.Pairwise fun a b => (cell a).positionLE (cell b) = true
  stable : ∀ row ∈ rows, sorted.filter (fun other => (cell row).isLevel (cell other)) =
    rows.filter fun other => (cell row).isLevel (cell other)

/-- Sorting finds a stable order. -/
theorem isStableSort_mergeSort (cell : MappingRow → Cell) (rows : List MappingRow) :
    IsStableSort cell rows (rows.mergeSort fun a b => (cell a).positionLE (cell b)) where
  perm := List.mergeSort_perm rows _
  ascending := List.pairwise_mergeSort (positionLE_trans cell) (positionLE_total cell) rows
  stable _ _ := filter_mergeSort (positionLE_trans cell) (positionLE_total cell)
    (fun _ _ => Cell.positionLE_of_isLevel) rows

/-- The row in front of an ascending list comes before all of its rows or is level with them. -/
theorem positionLE_of_mem {row other : MappingRow} {rest : List MappingRow}
    (hascending : (row :: rest).Pairwise fun a b => (cell a).positionLE (cell b) = true)
    (hother : other ∈ row :: rest) : (cell row).positionLE (cell other) = true := by
  rcases List.mem_cons.mp hother with rfl | hrest
  · exact Cell.positionLE_refl _
  · exact List.rel_of_pairwise_cons hascending hrest

/-- In front of two ascending lists of the same rows stand rows that are level. -/
theorem isLevel_of_heads {row row' : MappingRow} {rest rest' : List MappingRow}
    (hperm : (row :: rest).Perm (row' :: rest'))
    (hascending : (row :: rest).Pairwise fun a b => (cell a).positionLE (cell b) = true)
    (hascending' : (row' :: rest').Pairwise fun a b => (cell a).positionLE (cell b) = true) :
    (cell row).isLevel (cell row') = true := by
  have hle := positionLE_of_mem hascending (hperm.mem_iff.mpr List.mem_cons_self)
  have hge := positionLE_of_mem hascending' (hperm.mem_iff.mp List.mem_cons_self)
  rw [Cell.positionLE_iff] at hle hge
  exact beq_iff_eq.mpr (Std.OrientedCmp.isLE_antisymm hle hge)

/-- Ascending lists of the same rows are equal if all rows that are level stand in the same
order.  The rows in front are level, so they are the first of their level in both lists. -/
theorem eq_of_ascending (hperm : sorted.Perm sorted')
    (hascending : sorted.Pairwise fun a b => (cell a).positionLE (cell b) = true)
    (hascending' : sorted'.Pairwise fun a b => (cell a).positionLE (cell b) = true)
    (hlevels : ∀ row ∈ sorted, sorted.filter (fun other => (cell row).isLevel (cell other)) =
      sorted'.filter fun other => (cell row).isLevel (cell other)) : sorted = sorted' := by
  induction sorted generalizing sorted' with
  | nil => exact hperm.nil_eq
  | cons row rest ih =>
    cases sorted' with
    | nil => exact absurd hperm.eq_nil (by simp)
    | cons row' rest' =>
      have hlevel := isLevel_of_heads hperm hascending hascending'
      have hfirst := hlevels row List.mem_cons_self
      simp only [List.filter_cons, Cell.isLevel_self, hlevel, if_true] at hfirst
      obtain rfl := (List.cons.inj hfirst).1
      congr 1
      apply ih hperm.cons_inv hascending.tail hascending'.tail
      intro other hother
      have hothers := hlevels other (List.mem_cons_of_mem row hother)
      rw [List.filter_cons, List.filter_cons] at hothers
      split at hothers
      · exact (List.cons.inj hothers).2
      · exact hothers

theorem IsStableSort.unique (h : IsStableSort cell rows sorted)
    (h' : IsStableSort cell rows sorted') : sorted = sorted' := by
  apply eq_of_ascending (h.perm.trans h'.perm.symm) h.ascending h'.ascending
  intro row hrow
  have hrow : row ∈ rows := h.perm.mem_iff.mp hrow
  rw [h.stable row hrow, h'.stable row hrow]

theorem existsUnique_stableSort (cell : MappingRow → Cell) (rows : List MappingRow) :
    ∃! sorted, IsStableSort cell rows sorted :=
  ⟨_, isStableSort_mergeSort cell rows, fun _ h => h.unique (isStableSort_mergeSort cell rows)⟩

/-- Comparing positions is a total preorder on all cells.  Cells are level if and only if they
stand for the same number or the same text, and numbers are ordered by their bit patterns.  So
there is one stable order of any rows, and the positioned columns are read off it. -/
theorem cells_in_one_order (a b c : Cell) (cell : MappingRow → Cell) (rows : List MappingRow) :
    b.cmpPosition a = (a.cmpPosition b).swap ∧
      a.cmpPosition a = .eq ∧
      ((a.cmpPosition b).isLE = true → (b.cmpPosition c).isLE = true →
        (a.cmpPosition c).isLE = true) ∧
      (a.cmpPosition b = .eq ↔ ∃ p, a.StandsFor p ∧ b.StandsFor p) ∧
      (∀ x y, a.StandsFor (.number x) → b.StandsFor (.number y) →
        a.cmpPosition b = compare x.signedKey.toInt y.signedKey.toInt) ∧
      (∃! sorted, IsStableSort cell rows sorted) ∧
      ∀ sorted, IsStableSort cell (rows.filter fun row => !(cell row).isNull) sorted →
        TargetSchema.positioned cell rows = Name.cleanse (sorted.map (·.targetColumn)) := by
  refine ⟨Std.OrientedCmp.eq_swap, Std.ReflCmp.compare_self, Std.TransCmp.isLE_trans,
    Cell.cmpPosition_eq_iff, fun _ _ => Cell.cmpPosition_of_numbers,
    existsUnique_stableSort cell rows, ?_⟩
  intro sorted hsorted
  rw [hsorted.unique (isStableSort_mergeSort cell _)]
  rfl

end StableSorts

/-! ## Rows with cells of all kinds -/

namespace MixedCells

def minusZero : Binary64 := .ofMagnitude true 0

/-- A row with a target column and a cell for the sort order. -/
def row (name : String) (orderBy : Cell) : MappingRow :=
  ⟨1, none, none, some "T", some name, none, orderBy, .empty, none, none, none⟩

/-- Zero stands there as a truth value, in front of the negative zero, and as a text behind it.
One more text reads as a NaN, another one does not read as a number, and the last row has no
position. -/
def rows : List MappingRow :=
  [row "Word" (.text "b"), row "Quiet" (.text "nan"), row "No" (.bool false),
    row "Minus" (.number minusZero), row "Zero" (.text " 0e7"), row "None" .empty]

def sorted : List MappingRow :=
  [row "Minus" (.number minusZero), row "No" (.bool false), row "Zero" (.text " 0e7"),
    row "Quiet" (.text "nan"), row "Word" (.text "b")]

theorem isStableSort :
    IsStableSort (·.orderBy) (rows.filter fun row => !row.orderBy.isNull) sorted :=
  ⟨by decide +kernel, by decide +kernel, by decide +kernel⟩

end MixedCells

/-- The negative zero, the zero that a text reads as, and the empty text. -/
theorem cells_in_one_order_mixedCells :
    ((Cell.number MixedCells.minusZero).cmpPosition (.text " 0e7")).isLE = true ∧
      ((Cell.text " 0e7").cmpPosition .empty).isLE = true ∧
      ((Cell.number MixedCells.minusZero).cmpPosition .empty).isLE = true ∧
      (Cell.number MixedCells.minusZero).cmpPosition (.text " 0e7") =
        compare MixedCells.minusZero.signedKey.toInt Binary64.zero.signedKey.toInt ∧
      TargetSchema.positioned (·.orderBy) MixedCells.rows =
        ["Minus", "No", "Zero", "Quiet", "Word"] := by
  have hzero : (Cell.text " 0e7").StandsFor (.number .zero) := .numeric (by decide +kernel)
  have hab : ((Cell.number MixedCells.minusZero).cmpPosition (.text " 0e7")).isLE = true := by
    decide +kernel
  have hbc : ((Cell.text " 0e7").cmpPosition .empty).isLE = true := by decide +kernel
  obtain ⟨-, -, htrans, -, hnumbers, -, hpositioned⟩ := cells_in_one_order
    (.number MixedCells.minusZero) (.text " 0e7") .empty (·.orderBy) MixedCells.rows
  refine ⟨hab, hbc, htrans hab hbc, hnumbers _ _ (.number _) hzero, ?_⟩
  rw [hpositioned _ MixedCells.isStableSort]
  decide +kernel

end Medallion
