import Medallion.Specification
import Mathlib.Data.List.Forall2
import Mathlib.Data.List.GetD
import Mathlib.Data.List.Perm.Basic

/-!
# Columns of a table

Which cells of a record a row is made of depends on the headers alone.  A record is seen here
as a list of columns, headers with cells (`columnsOf`), and the cell below a header is that of
the last column with the header (`cellBelow_eq`).  All that is said about the layout of a table
follows from this one fact: the rows stay the same if the columns are reordered, if columns
with other headers come or go, and if records get longer or shorter at an end where nothing is
read (`rows_of_layout`).

A cell can be looked up or taken out of its record.  Taking cells out one after the other finds
the same ones, since a column has one header only and no header is asked for twice
(`takeCells_eq`).
-/

namespace Medallion

/-! ## The last column with a header -/

theorem lastColumn?_eq_none_iff {header : String} {headers : List String} :
    lastColumn? header headers = none ↔ header ∉ headers := by
  induction headers with
  | nil => simp [lastColumn?]
  | cons h headers ih =>
    rw [lastColumn?, List.mem_cons, not_or, ← ih]
    cases hrest : lastColumn? header headers with
    | some i => simp
    | none =>
      by_cases hh : h = header
      · simp [hh]
      · simp [hh, Ne.symm hh]

/-- The column at a place of a record: the header there and the cell below it, which is empty
where the record is too short. -/
def columnAt (headers : List String) (record : List Cell) (i : Nat) : String × Cell :=
  (headers.getD i "", record.getD i .empty)

/-- The columns of a record. -/
def columnsOf (headers : List String) (record : List Cell) : List (String × Cell) :=
  (List.range headers.length).map (columnAt headers record)

theorem columnsOf_cons (h : String) (headers : List String) (record : List Cell) :
    columnsOf (h :: headers) record =
      (h, record.getD 0 .empty) :: columnsOf headers record.tail := by
  unfold columnsOf
  rw [List.length_cons, List.range_succ_eq_map, List.map_cons, List.map_map]
  simp [columnAt, Function.comp_def]

/-- The columns with a header, of which only the last one is read. -/
def columnsNamed (header : String) (columns : List (String × Cell)) : List (String × Cell) :=
  columns.filter fun column => column.1 == header

theorem getLast?_columnsNamed (header : String) (headers : List String) (record : List Cell) :
    (columnsNamed header (columnsOf headers record)).getLast? =
      (lastColumn? header headers).map fun i => (header, record.getD i .empty) := by
  unfold columnsNamed
  induction headers generalizing record with
  | nil => rfl
  | cons h headers ih =>
    rw [columnsOf_cons, lastColumn?, List.filter_cons]
    have hrest := ih record.tail
    by_cases hh : h = header
    · rw [if_pos (by simpa using hh), List.getLast?_cons, hrest]
      cases lastColumn? header headers with
      | some i => simp
      | none => simp [hh]
    · rw [if_neg (by simpa using hh), hrest]
      cases lastColumn? header headers with
      | some i => simp
      | none => simp [hh]

/-- The cell below a header is that of the last column with the header. -/
theorem cellBelow_eq (headers : List String) (record : List Cell) (header : String) :
    cellBelow headers record header =
      match (columnsNamed header (columnsOf headers record)).getLast? with
      | some column => column.2.normalize
      | none => .empty := by
  rw [getLast?_columnsNamed, cellBelow]
  cases lastColumn? header headers with
  | some i => rfl
  | none => rfl

theorem cellBelow_congr {headers headers' : List String} {record record' : List Cell}
    {header : String}
    (hcolumns : columnsNamed header (columnsOf headers record) =
      columnsNamed header (columnsOf headers' record')) :
    cellBelow headers record header = cellBelow headers' record' header := by
  rw [cellBelow_eq, cellBelow_eq, hcolumns]

/-- The cell of a record below the last column with a header; there is none if no column has
the header or the record is too short. -/
inductive BelowLast (headers : List String) (record : List Cell) (header : String) : Cell → Prop
  | column {i : Nat} (hheader : headers[i]? = some header)
      (hlast : ∀ j, i < j → headers[j]? ≠ some header) :
      BelowLast headers record header (record.getD i .empty)
  | absent (hheader : header ∉ headers) : BelowLast headers record header .empty

theorem isLast_of_lastColumn? {header : String} {headers : List String} {i : Nat}
    (hlast : lastColumn? header headers = some i) :
    headers[i]? = some header ∧ ∀ j, i < j → headers[j]? ≠ some header := by
  induction headers generalizing i with
  | nil => cases hlast
  | cons h headers ih =>
    rw [lastColumn?] at hlast
    cases hrest : lastColumn? header headers with
    | some k =>
      rw [hrest] at hlast
      obtain rfl := Option.some.inj hlast
      obtain ⟨hheader, hbehind⟩ := ih hrest
      refine ⟨by simpa using hheader, fun j hj => ?_⟩
      obtain ⟨j, rfl⟩ := Nat.exists_eq_add_one_of_ne_zero (Nat.ne_of_gt (Nat.zero_lt_of_lt hj))
      simpa using hbehind j (by omega)
    | none =>
      rw [hrest] at hlast
      dsimp only at hlast
      split at hlast
      · rename_i hh
        obtain rfl := Option.some.inj hlast
        refine ⟨by simp [hh], fun j hj hheader => ?_⟩
        obtain ⟨j, rfl⟩ := Nat.exists_eq_add_one_of_ne_zero (Nat.ne_of_gt hj)
        rw [List.getElem?_cons_succ] at hheader
        exact lastColumn?_eq_none_iff.mp hrest (List.mem_of_getElem? hheader)
      · cases hlast

theorem exists_belowLast (headers : List String) (record : List Cell) (header : String) :
    ∃ cell, BelowLast headers record header cell ∧
      cellBelow headers record header = cell.normalize := by
  unfold cellBelow
  cases hlast : lastColumn? header headers with
  | none => exact ⟨_, .absent (lastColumn?_eq_none_iff.mp hlast), rfl⟩
  | some i =>
    obtain ⟨hheader, hbehind⟩ := isLast_of_lastColumn? hlast
    exact ⟨_, .column hheader hbehind, rfl⟩

/-! ## Taking cells out -/

/-- Takes the cell below a header out of a record.  An empty cell stays behind. -/
def takeCell (headers : List String) (cells : List Cell) (header : String) : Cell × List Cell :=
  match lastColumn? header headers with
  | some i => (cells.getD i .empty, cells.set i .empty)
  | none => (.empty, cells)

/-- Takes the cells below some headers out of a record, one after the other. -/
def takeCells (headers : List String) : List String → List Cell → List Cell
  | [], _ => []
  | header :: wanted, cells =>
    (takeCell headers cells header).1 ::
      takeCells headers wanted (takeCell headers cells header).2

/-- Taking one cell leaves the cells below all other headers where they are. -/
theorem takeCell_other {headers : List String} {cells : List Cell} {header other : String}
    (hne : other ≠ header) :
    (takeCell headers (takeCell headers cells header).2 other).1 =
      (takeCell headers cells other).1 := by
  unfold takeCell
  cases hheader : lastColumn? header headers with
  | none => rfl
  | some i =>
    cases hother : lastColumn? other headers with
    | none => rfl
    | some j =>
      have hplaces : i ≠ j := by
        rintro rfl
        have hsame := (isLast_of_lastColumn? hheader).1
        rw [(isLast_of_lastColumn? hother).1] at hsame
        exact hne (Option.some.inj hsame)
      dsimp only
      rw [List.getD_eq_getElem?_getD, List.getD_eq_getElem?_getD, List.getElem?_set_ne hplaces]

theorem takeCells_eq_map {headers wanted : List String} {cells : List Cell}
    (hwanted : wanted.Nodup) :
    takeCells headers wanted cells =
      wanted.map fun header => (takeCell headers cells header).1 := by
  induction wanted generalizing cells with
  | nil => rfl
  | cons header wanted ih =>
    obtain ⟨hheader, hrest⟩ := List.nodup_cons.mp hwanted
    rw [takeCells, ih hrest, List.map_cons]
    congr 1
    apply List.map_congr_left
    intro other hother
    apply takeCell_other
    rintro rfl
    exact hheader hother

/-- The cells that are taken out of a record in any order are those below the headers, if no
header is asked for twice. -/
theorem takeCells_eq {headers wanted : List String} {record : List Cell}
    (hwanted : wanted.Nodup) :
    takeCells headers wanted (record.map Cell.normalize) =
      wanted.map (cellBelow headers record) := by
  rw [takeCells_eq_map hwanted]
  apply List.map_congr_left
  intro header _
  unfold takeCell cellBelow
  cases lastColumn? header headers with
  | none => rfl
  | some i => exact List.getD_map record .empty Cell.normalize

/-! ## Rows -/

/-- The row whose cells below the known headers are given. -/
def MappingRow.ofCells (line : Nat) (cell : String → Cell) : MappingRow :=
  let text (header : String) := (cell header).normalize.toText?
  { line := line
    sourceTable := Name.cleanse? (text Header.sourceTable)
    sourceColumn := Name.cleanse? (text Header.sourceColumn)
    targetTable := Name.cleanse? (text Header.targetTable)
    targetColumn := Name.cleanse? (text Header.targetColumn)
    dataType := text Header.dataType
    orderBy := (cell Header.orderBy).normalize
    partitionBy := (cell Header.partitionBy).normalize
    isBusinessKey := text Header.isBusinessKey
    defaultValue := text Header.defaultValue
    transformation := text Header.transformation }

theorem MappingRow.ofRecord_eq {headers : List String} {line : Nat} {record : List Cell}
    {cell : String → Cell}
    (hcells : ∀ header, cellBelow headers record header = (cell header).normalize) :
    ofRecord headers line record = ofCells line cell := by
  simp only [ofRecord, ofCells, hcells]

/-- Records with the same cells below the known headers stand for the same row. -/
theorem MappingRow.ofRecord_congr {headers headers' : List String} {line : Nat}
    {record record' : List Cell}
    (hcells : ∀ header ∈ Header.all,
      cellBelow headers record header = cellBelow headers' record' header) :
    ofRecord headers line record = ofRecord headers' line record' := by
  simp only [Header.all, Header.names, List.cons_append, List.nil_append,
    List.forall_mem_cons] at hcells
  obtain ⟨h1, h2, h3, h4, h5, h6, h7, h8, h9, h10, -⟩ := hcells
  simp only [ofRecord, h1, h2, h3, h4, h5, h6, h7, h8, h9, h10]

namespace Specification

theorem rowsFrom_congr {headers headers' : List String} {line : Nat}
    {records records' : List (List Cell)}
    (hrecords : List.Forall₂ (fun record record' => ∀ header ∈ Header.all,
        cellBelow headers record header = cellBelow headers' record' header)
      records records') :
    rowsFrom headers line records = rowsFrom headers' line records' := by
  induction hrecords generalizing line with
  | nil => rfl
  | cons hcells _ ih => rw [rowsFrom, rowsFrom, MappingRow.ofRecord_congr hcells, ih]

theorem length_rowsFrom (headers : List String) (line : Nat) (records : List (List Cell)) :
    (rowsFrom headers line records).length = records.length := by
  induction records generalizing line with
  | nil => rfl
  | cons record records ih => rw [rowsFrom, List.length_cons, ih, List.length_cons]

theorem getElem?_rowsFrom (headers : List String) (line : Nat) (records : List (List Cell))
    (k : Nat) :
    (rowsFrom headers line records)[k]? =
      records[k]?.map (MappingRow.ofRecord headers (line + k)) := by
  induction records generalizing line k with
  | nil => simp [rowsFrom]
  | cons record records ih =>
    cases k with
    | zero => simp [rowsFrom]
    | succ k => simp [rowsFrom, ih, Nat.add_assoc, Nat.add_comm 1 k]

end Specification

/-! ## Layouts -/

/-- The columns at some places of a table, in the order of the places.  A record that is too
short has empty cells there. -/
def Table.select (t : Table) (places : List Nat) : Table where
  headers := places.map fun i => t.headers.getD i ""
  records := t.records.map fun record => places.map fun i => record.getD i .empty

/-- A table whose records have one cell for each header: what they lack is empty, and what is
behind the last header is gone. -/
def Table.padded (t : Table) : Table := t.select (List.range t.headers.length)

/-- Whether a table has the columns of another one in any order. -/
def Table.Reorders (t t' : Table) : Prop :=
  ∃ places, places.Perm (List.range t.headers.length) ∧ t'.padded = t.select places

/-- Whether a table has the columns of another one but for some whose headers are not known. -/
def Table.LosesUnknown (t t' : Table) : Prop :=
  ∃ places, places.Sublist (List.range t.headers.length) ∧
    (∀ i header, t.headers[i]? = some header → i ∉ places → header ∉ Header.all) ∧
    t'.padded = t.select places

/-- Whether a record is another one with empty cells behind it, and with any cells behind the
last header. -/
def Lengthens (headers : List String) (record record' : List Cell) : Prop :=
  ∃ count extra, record' = record ++ List.replicate count .empty ++ extra ∧
    (extra = [] ∨ headers.length ≤ record.length + count)

theorem columnsOf_select (headers : List String) (record : List Cell) (places : List Nat) :
    columnsOf (places.map fun i => headers.getD i "")
        (places.map fun i => record.getD i .empty) =
      places.map (columnAt headers record) := by
  induction places with
  | nil => rfl
  | cons i places ih => rw [List.map_cons, List.map_cons, columnsOf_cons, List.tail_cons, ih]; rfl

namespace Specification

/-- The rows stay the same under a choice of columns that has the same columns with each known
header. -/
theorem rows_select {t : Table} {places : List Nat}
    (hnamed : ∀ header ∈ Header.all, ∀ record ∈ t.records,
      columnsNamed header (places.map (columnAt t.headers record)) =
        columnsNamed header (columnsOf t.headers record)) :
    (ofTable (t.select places)).rows = (ofTable t).rows := by
  unfold ofTable Table.select
  apply rowsFrom_congr
  rw [List.forall₂_map_left_iff, List.forall₂_same]
  intro record hrecord header hheader
  apply cellBelow_congr
  rw [columnsOf_select]
  exact hnamed header hheader record hrecord

theorem rows_padded (t : Table) : (ofTable t.padded).rows = (ofTable t).rows :=
  rows_select fun _ _ _ _ => rfl

theorem length_columnsNamed (header : String) (headers : List String) (record : List Cell) :
    (columnsNamed header (columnsOf headers record)).length = headers.count header := by
  unfold columnsNamed
  induction headers generalizing record with
  | nil => rfl
  | cons h headers ih =>
    rw [columnsOf_cons, List.filter_cons, List.count_cons]
    by_cases hh : h = header
    · rw [if_pos (by simpa using hh), if_pos (by simpa using hh), List.length_cons, ih]
    · rw [if_neg (by simpa using hh), if_neg (by simpa using hh), ih, Nat.add_zero]

/-- Columns may stand in any order if no known header is repeated. -/
theorem rows_of_reorders {t t' : Table} (hreorders : t.Reorders t')
    (hunique : ∀ header ∈ Header.all, t.headers.count header ≤ 1) :
    (ofTable t').rows = (ofTable t).rows := by
  obtain ⟨places, hperm, hpadded⟩ := hreorders
  rw [← rows_padded t', hpadded]
  apply rows_select
  intro header hheader record _
  have hnamed : (columnsNamed header (places.map (columnAt t.headers record))).Perm
      (columnsNamed header (columnsOf t.headers record)) := (hperm.map _).filter _
  have hlength := length_columnsNamed header t.headers record
  have hone := hunique header hheader
  -- there is at most one column with the header, and then the order does not matter
  cases hcolumns : columnsNamed header (columnsOf t.headers record) with
  | nil => rwa [hcolumns, List.perm_nil] at hnamed
  | cons column others =>
    rw [hcolumns, List.length_cons] at hlength
    obtain rfl : others = [] := List.eq_nil_of_length_eq_zero (by omega)
    rwa [hcolumns, List.perm_singleton] at hnamed

/-- What a sublist lacks does not matter if it is filtered out anyway. -/
theorem filter_eq_of_sublist {xs ys : List Nat} {p : Nat → Bool} (hsub : xs.Sublist ys)
    (hys : ys.Nodup) (hlost : ∀ y ∈ ys, y ∉ xs → p y = false) : xs.filter p = ys.filter p := by
  induction hsub with
  | slnil => rfl
  | @cons xs ys y hsub ih =>
    obtain ⟨hy, hys⟩ := List.nodup_cons.mp hys
    have hyxs : y ∉ xs := fun hmem => hy (hsub.subset hmem)
    rw [List.filter_cons_of_neg (by simp [hlost y List.mem_cons_self hyxs])]
    exact ih hys fun y' hy' => hlost y' (List.mem_cons_of_mem y hy')
  | @cons_cons xs ys y hsub ih =>
    obtain ⟨hy, hys⟩ := List.nodup_cons.mp hys
    have hrest : xs.filter p = ys.filter p := by
      apply ih hys
      intro y' hy' hlost'
      apply hlost y' (List.mem_cons_of_mem y hy')
      rw [List.mem_cons, not_or]
      refine ⟨?_, hlost'⟩
      rintro rfl
      exact hy hy'
    rw [List.filter_cons, List.filter_cons, hrest]

/-- Columns whose headers are not known may come and go. -/
theorem rows_of_losesUnknown {t t' : Table} (hloses : t.LosesUnknown t') :
    (ofTable t').rows = (ofTable t).rows := by
  obtain ⟨places, hsub, hunknown, hpadded⟩ := hloses
  rw [← rows_padded t', hpadded]
  apply rows_select
  intro header hheader record _
  unfold columnsNamed columnsOf
  rw [List.filter_map, List.filter_map]
  congr 1
  apply filter_eq_of_sublist hsub List.nodup_range
  intro i hi hlost
  have hlt : i < t.headers.length := List.mem_range.mp hi
  have hat : t.headers[i]? = some t.headers[i] := List.getElem?_eq_getElem hlt
  have hne : t.headers[i] ≠ header := by
    intro heq
    exact hunknown i header (by rw [hat, heq]) hlost hheader
  simpa [columnAt, hat] using hne

theorem getD_of_lengthens {headers : List String} {record record' : List Cell} {i : Nat}
    (hlengthens : Lengthens headers record record') (hi : i < headers.length) :
    record'.getD i .empty = record.getD i .empty := by
  obtain ⟨count, extra, rfl, hextra⟩ := hlengthens
  by_cases hrecord : i < record.length
  · rw [List.append_assoc, List.getD_append _ _ _ _ hrecord]
  · rw [List.getD_eq_default record _ (by omega)]
    by_cases hcount : i < record.length + count
    · rw [List.getD_append _ _ _ _ (by simpa using hcount), List.getD_append_right _ _ _ _ (by omega),
        List.getD_replicate _ (by omega)]
    · rcases hextra with rfl | hlength
      · rw [List.append_nil, List.getD_eq_default _ _ (by simp; omega)]
      · omega

/-- Records may be padded at their ends, and lengthened behind the last header. -/
theorem rows_of_lengthens {t : Table} {records : List (List Cell)}
    (hrecords : List.Forall₂ (Lengthens t.headers) t.records records) :
    (ofTable ⟨t.headers, records⟩).rows = (ofTable t).rows := by
  apply Eq.symm
  apply rowsFrom_congr
  refine hrecords.imp fun record record' hlengthens header _ => ?_
  have hcolumns : columnsOf t.headers record = columnsOf t.headers record' := by
    apply List.map_congr_left
    intro i hi
    rw [columnAt, columnAt, getD_of_lengthens hlengthens (List.mem_range.mp hi)]
  apply cellBelow_congr
  rw [hcolumns]

/-- Whether a row is that of a record: it has the number of the record, and what it says under
each known header is what the cell below the last column with this header says.  These cells
are also those that are taken out of the record one after the other, if no header is asked for
twice. -/
def IsRowOf (headers : List String) (line : Nat) (record : List Cell) (row : MappingRow) : Prop :=
  ∃ cell : String → Cell, (∀ header, BelowLast headers record header (cell header)) ∧
    row = .ofCells line cell ∧
    ∀ wanted : List String, wanted.Nodup →
      takeCells headers wanted (record.map Cell.normalize) =
        wanted.map fun header => (cell header).normalize

theorem isRowOf_ofRecord (headers : List String) (line : Nat) (record : List Cell) :
    IsRowOf headers line record (.ofRecord headers line record) := by
  choose cell hcell hbelow using exists_belowLast headers record
  refine ⟨cell, hcell, MappingRow.ofRecord_eq hbelow, fun wanted hwanted => ?_⟩
  rw [takeCells_eq hwanted]
  exact List.map_congr_left fun header _ => hbelow header

/-- The rows of a table do not depend on how its columns are laid out: not on their order if no
known header is repeated, not on columns whose headers are not known, and not on what its
records have or lack behind their ends.  If a known header is repeated, it is the last column
with the header that counts. -/
theorem rows_of_layout (t : Table) :
    ((∀ header ∈ Header.all, t.headers.count header ≤ 1) →
        ∀ t', t.Reorders t' → (ofTable t').rows = (ofTable t).rows) ∧
      (∀ t', t.LosesUnknown t' → (ofTable t').rows = (ofTable t).rows) ∧
      (∀ t', t'.LosesUnknown t → (ofTable t').rows = (ofTable t).rows) ∧
      (∀ records, List.Forall₂ (Lengthens t.headers) t.records records →
        (ofTable ⟨t.headers, records⟩).rows = (ofTable t).rows) ∧
      (ofTable t).rows.length = t.records.length ∧
      ∀ k record, t.records[k]? = some record →
        ∃ row, (ofTable t).rows[k]? = some row ∧ IsRowOf t.headers (k + 1) record row := by
  have hrows (k : Nat) : (ofTable t).rows[k]? =
      t.records[k]?.map (MappingRow.ofRecord t.headers (1 + k)) :=
    getElem?_rowsFrom t.headers 1 t.records k
  refine ⟨?_, fun t' => rows_of_losesUnknown, ?_, fun records => rows_of_lengthens, ?_, ?_⟩
  · intro hunique t' hreorders
    exact rows_of_reorders hreorders hunique
  · intro t' hloses
    exact (rows_of_losesUnknown hloses).symm
  · exact length_rowsFrom t.headers 1 t.records
  · intro k record hrecord
    rw [hrows, hrecord, Nat.add_comm 1 k]
    exact ⟨_, rfl, isRowOf_ofRecord t.headers (k + 1) record⟩

/-- A record that is too short for the last column says nothing, whatever the first one has. -/
example :
    (ofTable ⟨["Data Type", "Data Type"],
        [[.text "int", .text "date"], [.text "int"]]⟩).rows.map (·.dataType) =
      [some "date", none] := by
  decide +kernel

end Specification

namespace ShuffledColumns

/-- The records are shorter than the headers. -/
def table : Table :=
  ⟨["Target Column Name", "Notes", "Source Table Name", "Order By"],
    [[.text " OrderId\u00A0", .text "x", .text "ORDERS "], [.text "Amount"]]⟩

def reordered : Table :=
  ⟨["Order By", "Source Table Name", "Notes", "Target Column Name"],
    [[.empty, .text "ORDERS ", .text "x", .text " OrderId\u00A0"],
      [.empty, .empty, .empty, .text "Amount"]]⟩

/-- The table without its notes; its records are short as well. -/
def narrow : Table :=
  ⟨["Target Column Name", "Source Table Name", "Order By"],
    [[.text " OrderId\u00A0", .text "ORDERS "], [.text "Amount"]]⟩

/-- The first record is padded and goes on behind the last header. -/
def lengthened : List (List Cell) :=
  [[.text " OrderId\u00A0", .text "x", .text "ORDERS ", .empty, .bool true], [.text "Amount"]]

theorem reorders : table.Reorders reordered := ⟨[3, 2, 1, 0], by decide, rfl⟩

theorem losesUnknown : table.LosesUnknown narrow := by
  refine ⟨[0, 2, 3], by decide, ?_, rfl⟩
  intro i header hat hlost
  match i with
  | 0 | 2 | 3 => simp at hlost
  | 1 =>
    obtain rfl := Option.some.inj hat
    decide
  | i + 4 => simp [table] at hat

theorem lengthens : List.Forall₂ (Lengthens table.headers) table.records lengthened :=
  .cons ⟨1, [.bool true], rfl, .inr (by decide)⟩ (.cons ⟨0, [], rfl, .inl rfl⟩ .nil)

end ShuffledColumns

open ShuffledColumns in
theorem rows_of_layout_shuffled :
    (∀ header ∈ Header.all, table.headers.count header ≤ 1) ∧
      table.Reorders reordered ∧ table.LosesUnknown narrow ∧
      List.Forall₂ (Lengthens table.headers) table.records lengthened ∧
      (Specification.ofTable reordered).rows = (Specification.ofTable table).rows ∧
      (Specification.ofTable narrow).rows = (Specification.ofTable table).rows ∧
      (Specification.ofTable ⟨table.headers, lengthened⟩).rows =
        (Specification.ofTable table).rows := by
  have hunique : ∀ header ∈ Header.all, table.headers.count header ≤ 1 := by decide
  obtain ⟨hreorder, hlose, -, hlengthen, -⟩ := Specification.rows_of_layout table
  exact ⟨hunique, reorders, losesUnknown, lengthens, hreorder hunique _ reorders,
    hlose _ losesUnknown, hlengthen _ lengthens⟩

end Medallion
