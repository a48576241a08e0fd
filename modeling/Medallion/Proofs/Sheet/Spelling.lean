import Medallion.Compilation
import Medallion.Proofs.Names
import Medallion.Proofs.Sheet.Columns

/-!
# Spelling of names

On its way from a cell to a row a name is trimmed, compared with the markers of an empty number,
freed of invisible characters, and trimmed again.  The first trim takes nothing away that the
last one would keep (`Name.strip_trimChars`), and a text that trims to a marker also strips to
one.  So what is read depends only on what the text strips to (`Name.cleanse?_normalize`).

Two tables that differ in the spelling of names only therefore have the same rows, and a
compiler gives the same answer for both and asks the same questions
(`Table.Respells.compile_alike`).

Texts that strip to a marker are left out.  Two of them need not be read alike: `NaN` stands
for no name, and with an invisible character in it for a name.
-/

namespace Medallion

open Text

/-! ## What a name is read as -/

namespace Name

theorem strip_padded {front back : List Char} (hfront : ∀ c ∈ front, isBlank c = true)
    (hback : ∀ c ∈ back, isBlank c = true) (cs : List Char) :
    strip (front ++ cs ++ back) = strip cs := by
  unfold strip
  rw [List.filter_append, List.filter_append]
  apply trimChars_padded
  · intro c hc
    exact hfront c (List.mem_of_mem_filter hc)
  · intro c hc
    exact hback c (List.mem_of_mem_filter hc)

/-- Blanks at the ends of a text are stripped also when invisible characters stand behind
them. -/
theorem strip_trimChars (cs : List Char) : strip (trimChars cs) = strip cs := by
  obtain ⟨front, back, hfront, hback, hcs⟩ := exists_trimChars cs
  calc strip (trimChars cs) = strip (front ++ trimChars cs ++ back) :=
        (strip_padded hfront hback _).symm
    _ = strip cs := by rw [← hcs]

theorem strip_nullMarkers : ∀ marker ∈ nullMarkers,
    String.ofList (strip marker.toList) = marker := by
  decide +kernel

/-- A text cell is read as the name that is left when the text is stripped, if one is left and
it is no marker. -/
theorem cleanse?_normalize {s : String} (hmarker : String.ofList (strip s.toList) ∉ nullMarkers) :
    cleanse? (Cell.text s).normalize.toText? =
      if strip s.toList = [] then none else some (String.ofList (strip s.toList)) := by
  have htrimmed : strip (trim s).toList = strip s.toList := by
    rw [trim, String.toList_ofList, strip_trimChars]
  have hread : trim s ∉ nullMarkers := by
    intro htrim
    rw [← htrimmed, strip_nullMarkers _ htrim] at hmarker
    exact hmarker htrim
  unfold Cell.normalize
  dsimp only
  split
  · rename_i hblank
    have hnothing : strip (s.toList ++ [] ++ []) = [] :=
      strip_padded (List.all_eq_true.mp hblank) (by simp) []
    rw [List.append_nil, List.append_nil] at hnothing
    rw [if_pos hnothing]
    rfl
  · split
    · rename_i hnothing
      cases hname : cleanse? (Cell.text (trim s)).toText? with
      | none => rfl
      | some name =>
        obtain ⟨-, rfl, hne⟩ := cleanse?_eq_some_iff.mp hname
        rw [htrimmed, hnothing] at hne
        exact absurd rfl hne
    · rename_i hname
      refine cleanse?_eq_some_iff.mpr ⟨hread, by rw [htrimmed], ?_⟩
      rwa [ne_eq, ← String.toList_eq_nil_iff, String.toList_ofList]

/-- Whether two texts spell the same name: they strip to the same, which is no marker. -/
def Respells (s s' : String) : Prop :=
  strip s'.toList = strip s.toList ∧ String.ofList (strip s.toList) ∉ nullMarkers

instance (s s' : String) : Decidable (Respells s s') := inferInstanceAs (Decidable (_ ∧ _))

theorem Respells.cleanse?_eq {s s' : String} (hrespells : Respells s s') :
    cleanse? (Cell.text s').normalize.toText? = cleanse? (Cell.text s).normalize.toText? := by
  obtain ⟨hstrip, hmarker⟩ := hrespells
  rw [cleanse?_normalize hmarker, cleanse?_normalize (hstrip ▸ hmarker), hstrip]

end Name

/-! ## Tables with other spellings -/

/-- Whether a cell may stand below a header instead of another one: below the headers of names,
a text may be spelled differently. -/
inductive Cell.Respells (header? : Option String) : Cell → Cell → Prop
  | same (c : Cell) : Respells header? c c
  | text {header s s' : String} (hheader : header? = some header) (hname : header ∈ Header.names)
      (hrespells : Name.Respells s s') : Respells header? (.text s) (.text s')

/-- Whether a table is another one with names spelled differently. -/
structure Table.Respells (t t' : Table) : Prop where
  headers : t'.headers = t.headers
  records : List.Forall₂ (fun record record' => record'.length = record.length ∧
      ∀ i, Cell.Respells t.headers[i]? (record.getD i .empty) (record'.getD i .empty))
    t.records t'.records

section Rows

variable {headers : List String} {record record' : List Cell}

/-- The cells below the last column with a header are spelled alike as well. -/
theorem exists_respells_below
    (hcells : ∀ i, Cell.Respells headers[i]? (record.getD i .empty) (record'.getD i .empty))
    (header : String) :
    ∃ c c', Cell.Respells (some header) c c' ∧ cellBelow headers record header = c.normalize ∧
      cellBelow headers record' header = c'.normalize := by
  unfold cellBelow
  cases hlast : lastColumn? header headers with
  | none => exact ⟨_, _, .same .empty, rfl, rfl⟩
  | some i =>
    obtain ⟨hheader, -⟩ := isLast_of_lastColumn? hlast
    exact ⟨_, _, hheader ▸ hcells i, rfl, rfl⟩

theorem MappingRow.ofRecord_respells {line : Nat}
    (hcells : ∀ i, Cell.Respells headers[i]? (record.getD i .empty) (record'.getD i .empty)) :
    ofRecord headers line record' = ofRecord headers line record := by
  have hother (header : String) (hno : header ∉ Header.names) :
      cellBelow headers record' header = cellBelow headers record header := by
    obtain ⟨c, c', hrespells, hbelow, hbelow'⟩ := exists_respells_below hcells header
    rw [hbelow, hbelow']
    cases hrespells with
    | same => rfl
    | text hheader hname _ =>
      obtain rfl := Option.some.inj hheader
      exact absurd hname hno
  have hname (header : String) :
      Name.cleanse? (cellBelow headers record' header).toText? =
        Name.cleanse? (cellBelow headers record header).toText? := by
    obtain ⟨c, c', hrespells, hbelow, hbelow'⟩ := exists_respells_below hcells header
    rw [hbelow, hbelow']
    cases hrespells with
    | same => rfl
    | text _ _ hrespells => exact hrespells.cleanse?_eq
  simp only [ofRecord, hname]
  rw [hother Header.dataType (by decide), hother Header.orderBy (by decide),
    hother Header.partitionBy (by decide), hother Header.isBusinessKey (by decide),
    hother Header.defaultValue (by decide), hother Header.transformation (by decide)]

theorem Specification.rowsFrom_respells {line : Nat} {records records' : List (List Cell)}
    (hrecords : List.Forall₂ (fun record record' => record'.length = record.length ∧
        ∀ i, Cell.Respells headers[i]? (record.getD i .empty) (record'.getD i .empty))
      records records') :
    rowsFrom headers line records' = rowsFrom headers line records := by
  induction hrecords generalizing line with
  | nil => rfl
  | cons hcells _ ih => rw [rowsFrom, rowsFrom, MappingRow.ofRecord_respells hcells.2, ih]

end Rows

open Specification in
/-- How names are spelled is invisible to a compiler: it reads the same rows, gives the same
answer and asks the same questions. -/
theorem Table.Respells.compile_alike {t t' : Table} (hrespells : t.Respells t') :
    (ofTable t').rows = (ofTable t).rows ∧ (ofTable t').headers = (ofTable t).headers ∧
      ∀ (c : Compiler) (domain : String) (tier : Tier),
        (c.compile (ofTable t') domain tier).answer = (c.compile (ofTable t) domain tier).answer ∧
          (c.compile (ofTable t') domain tier).calls = (c.compile (ofTable t) domain tier).calls := by
  have hrows : (ofTable t').rows = (ofTable t).rows := by
    unfold ofTable
    rw [hrespells.headers]
    exact rowsFrom_respells hrespells.records
  have hspec : ofTable t' = ofTable t := by
    rw [Specification.mk.injEq]
    exact ⟨hrespells.headers, hrows⟩
  refine ⟨hrows, hrespells.headers, fun c domain tier => ?_⟩
  rw [hspec]
  exact ⟨rfl, rfl⟩

/-- Two texts that strip to a marker need not be read alike. -/
example :
    Name.strip "\u200BNaN".toList = Name.strip "NaN".toList ∧
      (Specification.ofTable ⟨["Target Column Name"],
          [[.text "\u200BNaN"], [.text "NaN"]]⟩).rows.map (·.targetColumn) =
        [some "NaN", none] := by
  decide +kernel

namespace RespelledNames

def table : Table :=
  ⟨["Source Table Name", "Notes", "Target Column Name"],
    [[.text "ORDERS", .text " x", .text "Order Id"], [.empty, .bool true, .text ""]]⟩

/-- Blanks stand behind invisible characters here, and a name that is not there has some of
both. -/
def respelled : Table :=
  ⟨["Source Table Name", "Notes", "Target Column Name"],
    [[.text "\u2003ORD\u200BERS\u180E ", .text " x", .text "\u200B Order Id\u00A0"],
      [.empty, .bool true, .text " \u200B\u3000"]]⟩

theorem respells : table.Respells respelled where
  headers := rfl
  records := by
    refine .cons ⟨rfl, fun i => ?_⟩ (.cons ⟨rfl, fun i => ?_⟩ .nil)
    · match i with
      | 0 | 2 => exact .text rfl (by decide) (by decide +kernel)
      | 1 | i + 3 => exact .same _
    · match i with
      | 2 => exact .text rfl (by decide) (by decide +kernel)
      | 0 | 1 | i + 3 => exact .same _

end RespelledNames

open RespelledNames in
theorem compile_alike_hiddenBlanks :
    table.Respells respelled ∧
      (Specification.ofTable table).rows.map (fun row => (row.sourceTable, row.targetColumn)) =
        [(some "ORDERS", some "Order Id"), (none, none)] ∧
      (Specification.ofTable respelled).rows = (Specification.ofTable table).rows ∧
      ∀ (c : Compiler) (domain : String) (tier : Tier),
        (c.compile (.ofTable respelled) domain tier).answer =
            (c.compile (.ofTable table) domain tier).answer ∧
          (c.compile (.ofTable respelled) domain tier).calls =
            (c.compile (.ofTable table) domain tier).calls := by
  obtain ⟨hrows, -, hcompile⟩ := respells.compile_alike
  exact ⟨respells, by decide +kernel, hrows, hcompile⟩

end Medallion
