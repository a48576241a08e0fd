import Medallion.Proofs.Compilation.Validated
import Medallion.Sheet.Load
import Mathlib.Data.List.Forall2

/-!
# Numbers of rows and records

A row is numbered among the rows, and a row is made of a record that is not blank.  So the
number of a row counts the records up to its own without the blank ones
(`Specification.forall₂_standsFor`), and it is the number of the record in the file if and only
if no blank record stands in front (`Specification.lines_eq_numbers_iff`).

An error that names a row by its number (`Job.FailsAtLine`) is off by as much.

`recordsBelow` are the records behind the headers as the reader of the file yields them, before
the blank ones are left out.  Lines of comma-separated text with nothing in them, and rows of a
workbook outside the rectangle that is read, are no records.
-/

namespace Medallion

/-! ## All records of a file -/

/-- The records behind the headers, blank ones included. -/
def Csv.recordsBelow (bytes : List UInt8) : List (List Cell) :=
  match (records bytes).mapM fun record => record.mapM decode? with
  | some (_ :: rest) => rest.map fun record => record.map cell
  | _ => []

theorem Csv.records_of_table? {bytes : List UInt8} {t : Table} (ht : table? bytes = some t) :
    t.records = (recordsBelow bytes).filter (!Cell.isBlankRecord ·) := by
  unfold table? at ht
  unfold recordsBelow
  cases hfields : (records bytes).mapM fun record => record.mapM decode? with
  | none =>
    rw [hfields] at ht
    cases ht
  | some texts =>
    rw [hfields] at ht
    cases texts with
    | nil =>
      obtain rfl := Option.some.inj ht
      rfl
    | cons headers rest =>
      obtain rfl := Option.some.inj ht
      rfl

/-- The records behind the headers of the first sheet, blank ones included. -/
def Workbook.recordsBelow (book : Workbook) : List (List Cell) :=
  match book.sheets with
  | some rows :: _ => (rectangle rows).tail.map fun row => row.map GridCell.toCell
  | _ => []

theorem Workbook.records_of_table {book : Workbook} {t : Table} (ht : book.table = .ok t) :
    t.records = book.recordsBelow.filter (!Cell.isBlankRecord ·) := by
  unfold table at ht
  unfold recordsBelow
  split at ht
  · cases ht
  · cases ht
  · rename_i rows _ hsheets
    rw [hsheets]
    split at ht
    · obtain rfl := Except.ok.inj ht
      unfold tableOfSheet
      dsimp only
      cases rectangle rows with
      | nil => rfl
      | cons headers rest => rfl
    · cases ht

/-- The records behind the headers of a file, blank ones included. -/
def Content.recordsBelow : Content → List (List Cell)
  | .bytes data => Csv.recordsBelow data.data.toList
  | .workbook book => book.recordsBelow

namespace Specification

section Loading

variable {tree : FileTree} {file : Path} {t : Table}

theorem csvTable_eq_ok (ht : csvTable tree file = .ok t) :
    ∃ content, tree.read file = .ok content ∧
      t.records = content.recordsBelow.filter (!Cell.isBlankRecord ·) := by
  unfold csvTable at ht
  split at ht
  · cases ht
  · cases ht
  · rename_i data hread
    split at ht
    · rename_i htable
      obtain rfl := Except.ok.inj ht
      exact ⟨_, hread, Csv.records_of_table? htable⟩
    · cases ht

theorem workbookTable_eq_ok (ht : workbookTable tree file = .ok t) :
    ∃ content, tree.read file = .ok content ∧
      t.records = content.recordsBelow.filter (!Cell.isBlankRecord ·) := by
  unfold workbookTable at ht
  split at ht
  · cases ht
  · cases ht
  · rename_i book hread
    split at ht
    · cases ht
    · split at ht
      · rename_i htable
        obtain rfl := Except.ok.inj ht
        exact ⟨_, hread, Workbook.records_of_table htable⟩
      · cases ht
      · cases ht
      · cases ht

/-- What is loaded is the table of the records that are not blank. -/
theorem load_eq_ok {spec : Specification} (hload : load tree file = .ok spec) :
    ∃ content headers, tree.read file = .ok content ∧
      spec = ofTable ⟨headers, content.recordsBelow.filter (!Cell.isBlankRecord ·)⟩ := by
  unfold load at hload
  split at hload
  · cases hload
  · split at hload
    · cases hload
    · rename_i read hreader
      split at hload
      · cases hload
      · rename_i t ht
        have hcontent : ∃ content, tree.read file = .ok content ∧
            t.records = content.recordsBelow.filter (!Cell.isBlankRecord ·) := by
          unfold reader? at hreader
          dsimp only at hreader
          split at hreader
          · obtain rfl := Option.some.inj hreader
            exact csvTable_eq_ok ht
          · split at hreader
            · obtain rfl := Option.some.inj hreader
              exact workbookTable_eq_ok ht
            · cases hreader
        obtain ⟨content, hread, hrecords⟩ := hcontent
        split at hload
        · cases hload
        · refine ⟨content, t.headers, hread, ?_⟩
          rw [← hrecords]
          exact (Except.ok.inj hload).symm

end Loading

/-! ## Records with their numbers -/

/-- The records that are not blank, with their numbers among all records, from one. -/
def numbered (records : List (List Cell)) : List (List Cell × Nat) :=
  (records.zipIdx 1).filter fun p => !Cell.isBlankRecord p.1

/-- Whether a row is that of a numbered record: its own number is lower by the number of the
blank records in front. -/
structure StandsFor (headers : List String) (records : List (List Cell)) (row : MappingRow)
    (p : List Cell × Nat) : Prop where
  row_eq : row = .ofRecord headers row.line p.1
  line_add : row.line + (records.take (p.2 - 1)).countP Cell.isBlankRecord = p.2

/-- The records behind some others are numbered on from these. -/
theorem forall₂_standsFor_append (headers : List String) (before records : List (List Cell)) :
    List.Forall₂ (StandsFor headers (before ++ records))
      (rowsFrom headers (before.countP (!Cell.isBlankRecord ·) + 1)
        (records.filter (!Cell.isBlankRecord ·)))
      ((records.zipIdx (before.length + 1)).filter fun p => !Cell.isBlankRecord p.1) := by
  induction records generalizing before with
  | nil => exact .nil
  | cons record records ih =>
    have hrest := ih (before ++ [record])
    rw [List.append_assoc, List.singleton_append, List.countP_append, List.length_append,
      List.length_singleton] at hrest
    rw [List.zipIdx_cons, List.filter_cons, List.filter_cons]
    cases hblank : Cell.isBlankRecord record with
    | true => simpa [hblank] using hrest
    | false =>
      have hcount : before.length = before.countP Cell.isBlankRecord +
          before.countP (!Cell.isBlankRecord ·) := by
        simpa using List.length_eq_countP_add_countP Cell.isBlankRecord (l := before)
      simp only [Bool.not_false, if_true, rowsFrom]
      refine .cons ⟨rfl, ?_⟩ (by simpa [hblank] using hrest)
      show before.countP _ + 1 + ((before ++ record :: records).take before.length).countP _ = _
      rw [List.take_left]
      omega

theorem forall₂_standsFor (headers : List String) (records : List (List Cell)) :
    List.Forall₂ (StandsFor headers records)
      (ofTable ⟨headers, records.filter (!Cell.isBlankRecord ·)⟩).rows (numbered records) :=
  forall₂_standsFor_append headers [] records

/-- Whether no blank record stands in front of one that is not blank. -/
def BlankAtEnd (records : List (List Cell)) : Prop :=
  ∀ i record, records[i]? = some record → Cell.isBlankRecord record = false →
    ∀ earlier ∈ records.take i, Cell.isBlankRecord earlier = false

theorem blankAtEnd_iff {records : List (List Cell)} :
    BlankAtEnd records ↔
      ∀ p ∈ numbered records, (records.take (p.2 - 1)).countP Cell.isBlankRecord = 0 := by
  simp only [BlankAtEnd, List.countP_eq_zero, Bool.not_eq_true]
  constructor
  · rintro hend ⟨record, number⟩ hmem
    obtain ⟨hmem, hblank⟩ := List.mem_filter.mp hmem
    rw [List.mk_mem_zipIdx_iff_le_and_getElem?_sub] at hmem
    exact hend (number - 1) record hmem.2 (by simpa using hblank)
  · intro hnone i record hrecord hblank
    have hmem : (record, i + 1) ∈ numbered records := by
      rw [numbered, List.mem_filter, List.mk_mem_zipIdx_iff_le_and_getElem?_sub]
      exact ⟨⟨Nat.le_add_left 1 i, hrecord⟩, by simpa using hblank⟩
    exact hnone _ hmem

theorem lines_eq_iff {headers : List String} {records : List (List Cell)}
    {rows : List MappingRow} {ps : List (List Cell × Nat)}
    (hrows : List.Forall₂ (StandsFor headers records) rows ps) :
    rows.map (·.line) = ps.map (·.2) ↔
      ∀ p ∈ ps, (records.take (p.2 - 1)).countP Cell.isBlankRecord = 0 := by
  induction hrows with
  | nil => simp
  | cons hrow _ ih =>
    have hline := hrow.line_add
    rw [List.map_cons, List.map_cons, List.cons.injEq, List.forall_mem_cons, ih]
    refine and_congr_left fun _ => ?_
    omega

end Specification

/-! ## Errors that name a row -/

/-- Whether a generator fails because a row has no target column, and names the row by its
number. -/
def Job.FailsAtLine (job : Job) (audit : AuditProvider) (line : Nat) : Prop :=
  ∃ table,
    TargetSchema.ofJob job audit = .error (.schemaGeneration table (.noTargetColumn line)) ∨
      MappingSet.ofJob job = .error (.mappingGeneration table (.noTargetColumn line))

section Errors

variable {job : Job} {audit : AuditProvider} {table : String} {line : Nat}

theorem TargetSchema.row_of_noTargetColumn
    (hfails : ofJob job audit = .error (.schemaGeneration table (.noTargetColumn line))) :
    ∃ row ∈ job.spec.rows, row.line = line ∧ row.targetColumn = none := by
  obtain ⟨listed, -, hfails⟩ := exists_of_mapM_eq_error hfails
  obtain ⟨p, herror, hreason⟩ := ofTable_eq_error hfails
  cases herror
  rcases hreason with hempty | hsource | ⟨source, -, row, hrow, hfailed⟩ | ⟨problem, -, haudit⟩
  · rw [ofTable, hempty] at hfails
    cases hfails
  · obtain ⟨first, -, -, hp⟩ := sourceSchema_eq_error hsource
    cases hp
  · rcases rowColumn_eq_error hfailed with ⟨htarget, hp⟩ | ⟨column, -, ⟨schema, -, -, hp⟩ | ⟨-, hp⟩⟩
    · cases hp
      exact ⟨row, (Specification.mem_rowsOfTarget.mp hrow).1, rfl, htarget⟩
    · cases hp
    · cases hp
  · cases haudit

theorem MappingSet.row_of_noTargetColumn
    (hfails : ofJob job = .error (.mappingGeneration table (.noTargetColumn line))) :
    ∃ row ∈ job.spec.rows, row.line = line ∧ row.targetColumn = none := by
  unfold ofJob at hfails
  split at hfails
  · cases hfails
  · obtain ⟨listed, -, hfails⟩ := exists_of_mapM_eq_error hfails
    rcases ofTable_eq_error hfails with ⟨row, hrow, hfailed, hstops⟩ | ⟨hempty, -⟩
    · rcases rowMapping_unrecoverable hfailed hstops with
        ⟨htarget, herror⟩ | ⟨source, column, -, -, -, herror⟩
      · cases herror
        exact ⟨row, (Specification.mem_rowsOfTarget.mp hrow).1, rfl, htarget⟩
      · cases herror
    · cases hempty

theorem Job.row_of_failsAtLine (hfails : job.FailsAtLine audit line) :
    ∃ row ∈ job.spec.rows, row.line = line ∧ row.targetColumn = none := by
  obtain ⟨table, hschema | hmapping⟩ := hfails
  · exact TargetSchema.row_of_noTargetColumn hschema
  · exact MappingSet.row_of_noTargetColumn hmapping

end Errors

/-- The rows of a file stand for its records that are not blank, one after the other, and the
number of a row leaves the blank records in front of its own out.  So all rows have the numbers
of their records if and only if blank records stand at the end only.  The number in an error
leaves them out as well: it is that of a row whose record has no target column. -/
theorem Specification.lines_eq_numbers_iff {tree : FileTree} {file : Path} {spec : Specification}
    (hload : load tree file = .ok spec) :
    ∃ content, tree.read file = .ok content ∧
      List.Forall₂ (StandsFor spec.headers content.recordsBelow) spec.rows
        (numbered content.recordsBelow) ∧
      (spec.rows.map (·.line) = (numbered content.recordsBelow).map (·.2) ↔
        BlankAtEnd content.recordsBelow) ∧
      ∀ job audit line, job.spec = spec → Job.FailsAtLine job audit line →
        ∃ p ∈ numbered content.recordsBelow,
          (MappingRow.ofRecord spec.headers line p.1).targetColumn = none ∧
            line + (content.recordsBelow.take (p.2 - 1)).countP Cell.isBlankRecord = p.2 := by
  obtain ⟨content, headers, hread, rfl⟩ := load_eq_ok hload
  have hrows := forall₂_standsFor headers content.recordsBelow
  refine ⟨content, hread, hrows, (lines_eq_iff hrows).trans blankAtEnd_iff.symm, ?_⟩
  intro job audit line hspec hfails
  obtain ⟨row, hrow, rfl, htarget⟩ := Job.row_of_failsAtLine hfails
  rw [hspec] at hrow
  obtain ⟨p, hp, hstands⟩ := exists_of_forall₂_left hrows hrow
  rw [hstands.row_eq] at htarget
  exact ⟨p, hp, htarget, hstands.line_add⟩

namespace BlankRecords

/-- The first and the third record are blank, and the second has no target column. -/
def content : Content :=
  .bytes "Target Table Name,Target Column Name\n,\nDimOrders,\n ,\nDimOrders,OrderId\n".toUTF8

def file : Path := ⟨"map.csv"⟩

def tree : FileTree := (FileTree.empty "work").set ["work", "map.csv"] (.file content)

def spec : Specification :=
  .ofTable ⟨["Target Table Name", "Target Column Name"],
    [[.text "DimOrders", .empty], [.text "DimOrders", .text "OrderId"]]⟩

theorem read_eq : tree.read file = .ok content := by
  decide +kernel

theorem load_eq : Specification.load tree file = .ok spec := by
  decide +kernel

theorem lines_eq : spec.rows.map (·.line) = [1, 2] := by
  decide +kernel

theorem numbers_eq : (Specification.numbered content.recordsBelow).map (·.2) = [2, 4] := by
  decide +kernel

def job : Job := ⟨"sales", .bronze, .default, spec, []⟩

def audit : AuditProvider := fun _ => .ok []

theorem mapping_fails :
    MappingSet.ofJob job = .error (.mappingGeneration "DimOrders" (.noTargetColumn 1)) := by
  with_unfolding_all rfl

end BlankRecords

open BlankRecords in
theorem lines_eq_numbers_iff_betweenBlanks :
    Specification.load tree file = .ok spec ∧ tree.read file = .ok content ∧
      List.Forall₂ (Specification.StandsFor spec.headers content.recordsBelow) spec.rows
        (Specification.numbered content.recordsBelow) ∧
      ¬Specification.BlankAtEnd content.recordsBelow ∧
      job.FailsAtLine audit 1 ∧
      ∃ p ∈ Specification.numbered content.recordsBelow,
        (MappingRow.ofRecord spec.headers 1 p.1).targetColumn = none ∧
          1 + (content.recordsBelow.take (p.2 - 1)).countP Cell.isBlankRecord = p.2 := by
  obtain ⟨content', hread, hrows, hlines, hfailing⟩ := Specification.lines_eq_numbers_iff load_eq
  obtain rfl := Except.ok.inj (read_eq.symm.trans hread)
  have hfails : job.FailsAtLine audit 1 := ⟨_, .inr mapping_fails⟩
  refine ⟨load_eq, read_eq, hrows, ?_, hfails, hfailing job audit 1 rfl hfails⟩
  rw [← hlines, lines_eq, numbers_eq]
  decide

open BlankRecords in
/-- The record without a target column is the second one, and the error calls it the first. -/
theorem lines_skip_blank_records :
    Specification.load tree file = .ok spec ∧ tree.read file = .ok content ∧
      content.recordsBelow[1]? = some [.text "DimOrders", .empty] ∧
      spec.rows.map (·.line) = [1, 2] ∧
      (Specification.numbered content.recordsBelow).map (·.2) = [2, 4] ∧
      MappingSet.ofJob job = .error (.mappingGeneration "DimOrders" (.noTargetColumn 1)) :=
  ⟨load_eq, read_eq, by decide +kernel, lines_eq, numbers_eq, mapping_fails⟩

end Medallion
