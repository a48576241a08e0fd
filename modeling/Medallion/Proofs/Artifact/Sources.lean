import Medallion.Proofs.Artifact.Generators
import Medallion.Proofs.Artifact.RoundTrip

/-!
# Mapping sets read back

The sources of columns are written without a mark of their kind, and a reader tries the kinds
one after the other.  So a function that has a name, its type and nothing else is read as a
direct source with that name (`ColumnSource.mistakenName?`).  It is the only generated source
that is mistaken for another kind (`ColumnSource.ofDocument?_toJson`).

A source stands three containers deep in a mapping set, so a function that could be read from
its row can be too deep to be read from the set (`ColumnSource.Fits`).

`mapping_set_reads_back_iff` says which mapping sets are read back as they were, and what the
others are read as.  The numbers in functions have to be whole, as everywhere that a text is
read back.

Two facts about generated sources are needed (`ColumnSource.IsMade`): a function always has
its type among its members, so it is never empty; and since its members come from a text or
are set one by one, no object in it has a name twice.
-/

namespace Medallion

open Document (ofJson)

theorem Document.text?_ofJson (j : Json) : (ofJson j).text? = j.text? := by
  cases j <;> rfl

/-! ## Generated sources -/

namespace ColumnSource

/-- What holds of every source that is generated: a function has its type among its members,
and no object in it has a name twice. -/
def IsMade : ColumnSource → Prop
  | .function members =>
    (Json.object members).Distinct ∧ ("type", .text DataType.string.name) ∈ members
  | .direct _ _ | .empty => True

theorem isMade_ofMembers {members : List (String × Json)}
    (hdistinct : (Json.object members).Distinct) : (ofMembers members).IsMade :=
  ⟨Json.distinct_setMember hdistinct trivial, Json.mem_setMember _ _ _⟩

theorem isMade_keyHash (columns : List String) : (keyHash columns).IsMade := by
  refine isMade_ofMembers ?_
  simp [Json.Distinct, Json.DistinctMembers, Json.distinct_texts]

theorem isMade_of_parseFunction {text : String} {source : ColumnSource}
    (hsource : parseFunction text = .ok source) : source.IsMade := by
  unfold parseFunction at hsource
  split at hsource
  · rename_i members hparse
    cases hsource
    exact isMade_ofMembers (Json.distinct_of_parse? hparse)
  · cases hsource
  · cases hsource

/-! ## Reading a source -/

/-- The name with which a function is taken for a direct source: it has a name that is a
text, and its type, and nothing else. -/
def mistakenName? : ColumnSource → Option String
  | .function [(n, v), (n', v')] =>
    if n = "name" ∧ n' = "type" then v.text?
    else if n = "type" ∧ n' = "name" then v'.text?
    else none
  | _ => none

/-- What a generated source is read as. -/
def asRead (source : ColumnSource) : ColumnSource :=
  match source.mistakenName? with
  | some name => .direct name .string
  | none => source

theorem asRead_eq_self {source : ColumnSource} :
    source.asRead = source ↔ source.mistakenName? = none := by
  unfold asRead
  cases hname : source.mistakenName? with
  | none => simp
  | some name =>
    simp only [reduceCtorEq, iff_false]
    rintro rfl
    cases hname

/-- Whether the containers of a source do not stand too deep when the source stands in a
mapping set. -/
def Fits (source : ColumnSource) : Prop := source.toJson.depth ≤ Json.depthLimit - outerDepth

instance (source : ColumnSource) : Decidable source.Fits := Nat.decLe _ _

theorem directOf?_function {members : List (String × Json)}
    (hmade : (function members).IsMade) :
    directOf? (ofJson (.object members)) =
      (mistakenName? (.function members)).map fun name => .direct name .string := by
  obtain ⟨⟨hnodup, -⟩, htype⟩ := hmade
  match members with
  | [] => cases htype
  | [(n, v)] => simp [directOf?, Document.ofJson, Document.ofMembers, mistakenName?]
  | m :: m' :: m'' :: rest => simp [directOf?, Document.ofJson, Document.ofMembers, mistakenName?]
  | [(n, v), (n', v')] =>
    have hne : n ≠ n' := by simpa using hnodup
    simp only [List.mem_cons, List.not_mem_nil, or_false, Prod.mk.injEq] at htype
    -- one of the two members is the type, so the other one has another name
    rcases htype with ⟨rfl, rfl⟩ | ⟨rfl, rfl⟩
    · by_cases hname : n' = "name"
      · subst hname
        simp only [Document.ofJson, Document.ofMembers, directOf?, Document.choice?,
          DataType.ofName?_name, Document.text?_ofJson, mistakenName?, hne, false_and, if_false,
          and_self, if_true]
        cases v'.text? <;> rfl
      · simp [directOf?, Document.ofJson, Document.ofMembers, mistakenName?, hname, hne.symm]
    · by_cases hname : n = "name"
      · subst hname
        simp only [Document.ofJson, Document.ofMembers, directOf?, Document.choice?,
          DataType.ofName?_name, Document.text?_ofJson, mistakenName?, and_self, if_true]
        cases v.text? <;> rfl
      · simp [directOf?, Document.ofJson, Document.ofMembers, mistakenName?, hname, hne]

theorem directOf?_direct (name : String) (type : DataType) :
    directOf? (ofJson (direct name type).toJson) = some (.direct name type) := by
  simp only [toJson, Document.ofJson, Document.ofMembers, directOf?, Document.choice?,
    DataType.ofName?_name]
  rfl

/-- An object is read if it is not too deep: as a direct source or as an empty one if it can be,
and as a function otherwise. -/
theorem readWithin?_object {members : List (String × Json)}
    (hdistinct : (Json.object members).Distinct) (depth : Nat) :
    readWithin? depth (ofJson (.object members)) =
      if (Json.object members).depth ≤ depth then
        some (((directOf? (ofJson (.object members))).or
          (emptyOf? (ofJson (.object members)))).getD (.function members))
      else none := by
  rw [readWithin?, Document.toJson?_ofJson _ hdistinct]
  split
  · cases directOf? (ofJson (.object members)) with
    | some source => rfl
    | none => cases emptyOf? (ofJson (.object members)) <;> rfl
  · rfl

/-- A direct source is read as it was wherever there is room for its object. -/
theorem readWithin?_direct (name : String) (type : DataType) {depth : Nat} (hdepth : 0 < depth) :
    readWithin? depth (ofJson (direct name type).toJson) = some (direct name type) := by
  obtain ⟨outer, rfl⟩ := Nat.exists_eq_succ_of_ne_zero hdepth.ne'
  have hvalue : (ofJson (direct name type).toJson).toJson? (outer + 1) =
      some (direct name type).toJson := rfl
  rw [readWithin?, hvalue, directOf?_direct]
  rfl

/-- A generated source is read if it fits, and then as it was, except for a function that is
taken for a direct source. -/
theorem ofDocument?_toJson {source : ColumnSource} (hmade : source.IsMade) :
    ofDocument? (ofJson source.toJson) = if source.Fits then some source.asRead else none := by
  cases source with
  | direct name type =>
    rw [ofDocument?, readWithin?_direct name type (by decide),
      if_pos (by exact Nat.le_of_ble_eq_true rfl)]
    rfl
  | empty => rfl
  | function members =>
    have hempty : emptyOf? (ofJson (.object members)) = none := by
      obtain ⟨-, htype⟩ := hmade
      cases members with
      | nil => cases htype
      | cons m members => rfl
    have hfits : (Json.object members).depth ≤ Json.depthLimit - outerDepth ↔
        (function members).Fits := Iff.rfl
    rw [ofDocument?, toJson, readWithin?_object hmade.1, directOf?_function hmade, hempty,
      Option.or_none]
    by_cases h : (function members).Fits
    · rw [if_pos (hfits.mpr h), if_pos h, asRead]
      cases (function members).mistakenName? <;> rfl
    · rw [if_neg (mt hfits.mp h), if_neg h]

end ColumnSource

/-! ## Reading a mapping set -/

namespace ColumnMapping

/-- What a generated column mapping is read as. -/
def asRead (c : ColumnMapping) : ColumnMapping := { c with source := c.source.asRead }

theorem isWhole_toJson {c : ColumnMapping} (hwhole : c.source.toJson.IsWhole) :
    c.toJson.IsWhole :=
  ⟨trivial, trivial, hwhole, trivial⟩

theorem ofDocument?_toJson {c : ColumnMapping} (hmade : c.source.IsMade) :
    ofDocument? (ofJson c.toJson) = if c.source.Fits then some c.asRead else none := by
  have hfields : Document.fields? fields (ofJson c.toJson) =
      some [some (.text (some c.name)), some (.text (some c.type.name)),
        some (ofJson c.source.toJson)] := rfl
  unfold ofDocument?
  rw [hfields]
  simp only [Option.bind_eq_bind, Option.bind_some, Document.required?, Document.text?,
    Document.choice?, DataType.ofName?_name, ColumnSource.ofDocument?_toJson hmade]
  split <;> rfl

end ColumnMapping

namespace MappingSet

/-- What a generated mapping set is read as. -/
def asRead (set : MappingSet) : MappingSet := { set with columns := set.columns.map (·.asRead) }

theorem isWhole_toJson {set : MappingSet}
    (hwhole : ∀ column ∈ set.columns, column.source.toJson.IsWhole) : set.toJson.IsWhole := by
  have hcolumns : Json.IsWholeItems (set.columns.map ColumnMapping.toJson) := by
    rw [Json.isWholeItems_iff, List.forall_mem_map]
    exact fun column hcolumn => ColumnMapping.isWhole_toJson (hwhole column hcolumn)
  exact ⟨trivial, trivial, trivial, trivial, hcolumns, trivial⟩

theorem ofDocument?_toJson {set : MappingSet}
    (hmade : ∀ column ∈ set.columns, column.source.IsMade) :
    ofDocument? (ofJson set.toJson) =
      if ∀ column ∈ set.columns, column.source.Fits then some set.asRead else none := by
  have hfields : Document.fields? fields (ofJson set.toJson) =
      some [some (.text (some set.domain)), some (.text (some set.tableName)),
        some (.text (some set.source.name)), some (.text (some set.target.name)),
        some (ofJson (.array (set.columns.map ColumnMapping.toJson)))] := rfl
  have hcolumns := Document.list?_ofJson_ite
    fun column hcolumn => ColumnMapping.ofDocument?_toJson (hmade column hcolumn)
  unfold ofDocument?
  rw [hfields]
  simp only [Option.bind_eq_bind, Option.bind_some, Document.required?, Document.text?,
    Document.choice?, Tier.ofName?_name, hcolumns]
  split <;> rfl

theorem asRead_eq_self {set : MappingSet} :
    set.asRead = set ↔ ∀ column ∈ set.columns, column.source.mistakenName? = none := by
  have hcolumn (c : ColumnMapping) : c.asRead = c ↔ c.source.mistakenName? = none := by
    rw [← ColumnSource.asRead_eq_self, ColumnMapping.asRead, ColumnMapping.mk.injEq]
    simp only [true_and]
  have hcolumns : set.asRead = set ↔ set.columns.map (·.asRead) = set.columns.map id := by
    rw [List.map_id, asRead, MappingSet.mk.injEq]
    simp only [true_and]
  rw [hcolumns, List.map_inj_left]
  exact forall₂_congr fun c _ => hcolumn c

variable {job : Job} {table name : String} {row : MappingRow}

theorem isMade_of_computedSource {source : ColumnSource}
    (hsource : computedSource table name row = .ok source) : source.IsMade := by
  unfold computedSource at hsource
  split at hsource
  · cases hsource
    trivial
  · split at hsource
    · cases hsource
      trivial
    · exact ColumnSource.isMade_of_parseFunction (mapError_eq_ok.mp hsource)

theorem isMade_of_rowMapping {mapping : ColumnMapping}
    (hmapping : rowMapping job table row = .ok mapping) : mapping.source.IsMade := by
  have hcase := rowCase job table row
  rw [hmapping] at hcase
  cases hcase with
  | direct _ _ _ _ => trivial
  | computed _ _ hresult =>
    obtain ⟨source, hsource, rfl⟩ := map_eq_ok.mp hresult
    exact isMade_of_computedSource hsource

theorem isMade_of_keyMapping {spec : Specification} {rows : List MappingRow}
    {mapping : ColumnMapping} (hmapping : keyMapping? spec rows = some mapping) :
    mapping.source.IsMade := by
  unfold keyMapping? at hmapping
  split at hmapping
  · split at hmapping
    · cases hmapping
    · cases hmapping
      exact ColumnSource.isMade_keyHash _
  · cases hmapping

/-- Every column of a generated mapping set has a generated source. -/
theorem isMade_of_ofJob {sets : List MappingSet} {set : MappingSet}
    (hsets : ofJob job = .ok sets) (hset : set ∈ sets) :
    ∀ column ∈ set.columns, column.source.IsMade := by
  obtain ⟨feeder, -, hsets⟩ := ofJob_eq_ok.mp hsets
  obtain ⟨table, -, hset⟩ := exists_of_forall₂_right hsets hset
  obtain ⟨found, hfound, rfl⟩ := ofTable_eq_ok hset
  intro column hcolumn
  rcases List.mem_append.mp hcolumn with hkey | hcolumn
  · exact isMade_of_keyMapping (Option.mem_toList.mp hkey)
  · obtain ⟨mapping, hmapping, hsome⟩ := List.mem_filterMap.mp hcolumn
    obtain ⟨row, -, hmaps⟩ := exists_of_forall₂_right hfound hmapping
    cases hsome
    exact isMade_of_rowMapping hmaps

/-- The text of a generated mapping set is read if all its sources fit. -/
theorem readAs?_toJson {sets : List MappingSet} {set : MappingSet}
    (hsets : ofJob job = .ok sets) (hset : set ∈ sets)
    (hwhole : ∀ column ∈ set.columns, column.source.toJson.IsWhole) :
    set.toJson.readAs? ofDocument? =
      if ∀ column ∈ set.columns, column.source.Fits then some set.asRead else none := by
  rw [Json.readAs?_of_isWhole (isWhole_toJson hwhole),
    ofDocument?_toJson (isMade_of_ofJob hsets hset)]

end MappingSet

/-! ## Which mapping sets are read back -/

/-- A generated mapping set is read back as it was unless one of its functions is too deep in
it or has a name, its type and nothing else. -/
theorem mapping_set_reads_back_iff {job : Job} {sets : List MappingSet} {set : MappingSet}
    (hsets : MappingSet.ofJob job = .ok sets) (hset : set ∈ sets)
    (hwhole : ∀ column ∈ set.columns, column.source.toJson.IsWhole) :
    set.toJson.readAs? MappingSet.ofDocument? =
        (if ∀ column ∈ set.columns, column.source.Fits then some set.asRead else none) ∧
      (set.toJson.readAs? MappingSet.ofDocument? = some set ↔
        ∀ column ∈ set.columns, column.source.Fits ∧ column.source.mistakenName? = none) := by
  have hread := MappingSet.readAs?_toJson hsets hset hwhole
  refine ⟨hread, ?_⟩
  rw [hread, Option.ite_none_right_eq_some, Option.some.injEq, MappingSet.asRead_eq_self]
  exact forall₂_and.symm

/-! ## A function with a name and nothing else -/

namespace NamedFunction

/-- A function that says what it does. -/
def nowText : String := "\x7b\"function\":\"now\"\x7d"

/-- A function that only has a name. -/
def namedText : String := "\x7b\"name\":\"x\"\x7d"

/-- The first row has a source column, the other two have functions. -/
def table : Table :=
  ⟨Header.all,
    [[.text "A", .text "id", .text "T", .text "X"],
      [.empty, .empty, .text "T", .text "Y", .empty, .empty, .empty, .empty, .empty, .text nowText],
      [.empty, .empty, .text "T", .text "Z", .empty, .empty, .empty, .empty, .empty,
        .text namedText]]⟩

def job : Job where
  domain := "sales"
  tier := .bronze
  rules := .default
  spec := .ofTable table
  schemas := [("A", .ofColumns "sales" "A" [⟨"id", "int"⟩])]

/-- The second function as it is generated. -/
def named : ColumnSource := .function [("name", .text "x"), ("type", .text "string")]

/-- The mapping set, with a source for the column of the third row. -/
def set (last : ColumnSource) : MappingSet :=
  ⟨"sales", "T", .landingZone, .bronze,
    [⟨"X", .integer, .direct "id" .integer⟩,
      ⟨"Y", .string, .function [("function", .text "now"), ("type", .text "string")]⟩,
      ⟨"Z", .string, last⟩]⟩

def directRow : MappingRow :=
  ⟨1, some "A", some "id", some "T", some "X", none, .empty, .empty, none, none, none⟩

/-- A row with a function. -/
def functionRow (line : Nat) (column text : String) : MappingRow :=
  ⟨line, none, none, some "T", some column, none, .empty, .empty, none, none, some text⟩

theorem rows_eq : job.spec.rows =
    [directRow, functionRow 2 "Y" nowText, functionRow 3 "Z" namedText] := by
  with_unfolding_all rfl

theorem rowMapping_directRow :
    MappingSet.rowMapping job "T" directRow = .ok ⟨"X", .integer, .direct "id" .integer⟩ := by
  with_unfolding_all rfl

theorem rowMapping_functionRow (line : Nat) (column : String) {text : String}
    {source : ColumnSource} (hblank : Text.isBlankText text = false)
    (hsource : ColumnSource.parseFunction text = .ok source) :
    MappingSet.rowMapping job "T" (functionRow line column text) =
      .ok ⟨column, .string, source⟩ := by
  simp only [MappingSet.rowMapping, functionRow, MappingSet.computedSource, hblank, hsource]
  rfl

theorem generates : MappingSet.ofJob job = .ok [set named] := by
  have htables : job.spec.targetTables = ["T"] := by with_unfolding_all rfl
  have hrows : job.spec.rowsOfTarget "T" = job.spec.rows := by with_unfolding_all rfl
  have hnow : ColumnSource.parseFunction nowText =
      .ok (.function [("function", .text "now"), ("type", .text "string")]) := by cbv
  have hnamed : ColumnSource.parseFunction namedText = .ok named := by cbv
  have hcolumns : MappingSet.rowMappings job "T" job.spec.rows = .ok (set named).columns := by
    simp only [rows_eq, MappingSet.rowMappings, rowMapping_directRow,
      rowMapping_functionRow 2 "Y" (by decide) hnow,
      rowMapping_functionRow 3 "Z" (by decide) hnamed]
    rfl
  have htable : MappingSet.ofTable job .landingZone "T" = .ok (set named) := by
    rw [MappingSet.ofTable, hrows, hcolumns]
    rfl
  refine MappingSet.ofJob_eq_ok.mpr ⟨.landingZone, rfl, ?_⟩
  rw [htables]
  exact .cons htable .nil

theorem isWhole : ∀ column ∈ (set named).columns, column.source.toJson.IsWhole := by
  simp [set, named, ColumnSource.toJson, Json.IsWhole, Json.IsWholeMembers]

theorem fits : ∀ column ∈ (set named).columns, column.source.Fits := by decide

end NamedFunction

theorem mapping_set_reads_back_iff_namedFunction :
    (NamedFunction.set NamedFunction.named).toJson.readAs? MappingSet.ofDocument? =
        (if ∀ column ∈ (NamedFunction.set NamedFunction.named).columns, column.source.Fits then
          some (NamedFunction.set NamedFunction.named).asRead
        else none) ∧
      ((NamedFunction.set NamedFunction.named).toJson.readAs? MappingSet.ofDocument? =
          some (NamedFunction.set NamedFunction.named) ↔
        ∀ column ∈ (NamedFunction.set NamedFunction.named).columns,
          column.source.Fits ∧ column.source.mistakenName? = none) :=
  mapping_set_reads_back_iff NamedFunction.generates (List.mem_singleton_self _)
    NamedFunction.isWhole

/-- All sources fit and no number is in them, and a function comes back as a direct source. -/
theorem function_read_as_direct :
    MappingSet.ofJob NamedFunction.job = .ok [NamedFunction.set NamedFunction.named] ∧
      (∀ column ∈ (NamedFunction.set NamedFunction.named).columns,
        column.source.toJson.IsWhole ∧ column.source.Fits) ∧
      (NamedFunction.set NamedFunction.named).toJson.readAs? MappingSet.ofDocument? =
        some (NamedFunction.set (.direct "x" .string)) ∧
      NamedFunction.set (.direct "x" .string) ≠ NamedFunction.set NamedFunction.named := by
  refine ⟨NamedFunction.generates, forall₂_and.mpr ⟨NamedFunction.isWhole, NamedFunction.fits⟩,
    ?_, by simp [NamedFunction.set, NamedFunction.named]⟩
  rw [MappingSet.readAs?_toJson NamedFunction.generates (List.mem_singleton_self _)
    NamedFunction.isWhole, if_pos NamedFunction.fits]
  rfl

end Medallion
