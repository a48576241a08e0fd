import Medallion.Proofs.Artifact.Reading
import Medallion.Proofs.Json.Values

/-!
# Artifacts read back as they were written

Target tables, target schemas, linkages and source schemas are read back from their texts as
they were written, whatever strings they hold (`artifacts_read_back`).

The members of a source schema that are not used are any values.  They come back, in their
order, if a reader can take them for what they are (`SourceSchema.KeepsExtra`).

Mapping sets are not always read back; this module says nothing about them.
-/

namespace Medallion

open Document (ofJson ofMembers named? unrepeated)

/-! ## Texts -/

/-- What a reader makes of the text that writes a value. -/
def Json.readAs? {α : Type} (read : Document → Option α) (j : Json) : Option α :=
  (Document.parse? j.render).bind read

theorem Json.readAs?_of_isWhole {α : Type} {j : Json} (hwhole : j.IsWhole)
    (read : Document → Option α) : j.readAs? read = read (ofJson j) := by
  rw [readAs?, Document.parse?_render hwhole, Option.bind_some]

theorem Document.list?_texts (ss : List String) :
    list? text? (ofJson (.texts ss)) = some ss :=
  list?_ofJson (fun _ => rfl) ss

theorem Document.ofMembers_eq (members : List (String × Json)) :
    ofMembers members = members.map fun m => (some m.1, ofJson m.2) := by
  induction members with
  | nil => rfl
  | cons m members ih => rw [ofMembers, ih, List.map_cons]

/-! ## Target tables, target schemas and linkages -/

theorem TargetTables.isWhole_toJson (t : TargetTables) : t.toJson.IsWhole := by
  obtain ⟨action, tier, storageAccount, keyVault, tables⟩ := t
  have htables := Json.isWhole_texts tables
  cases storageAccount with
  | none =>
    cases keyVault with
    | none => exact ⟨trivial, trivial, htables, trivial⟩
    | some vault => exact ⟨trivial, trivial, trivial, htables, trivial⟩
  | some account =>
    cases keyVault with
    | none => exact ⟨trivial, trivial, trivial, htables, trivial⟩
    | some vault => exact ⟨trivial, trivial, trivial, trivial, htables, trivial⟩

/-- The fields of the list of target tables are found whichever of them are left out. -/
theorem TargetTables.fields?_toJson (t : TargetTables) :
    Document.fields? fields (ofJson t.toJson) =
      some [some (.text (some t.action.name)), some (.text (some t.tier.name)),
        t.storageAccount.map fun s => .text (some s), t.keyVault.map fun s => .text (some s),
        some (ofJson (.texts t.tables))] := by
  obtain ⟨action, tier, storageAccount, keyVault, tables⟩ := t
  cases storageAccount <;> cases keyVault <;> rfl

theorem Document.omittable?_text (s : Option String) :
    omittable? text? (s.map fun s => .text (some s)) = some s := by
  cases s <;> rfl

theorem TargetTables.ofDocument?_toJson (t : TargetTables) :
    ofDocument? (ofJson t.toJson) = some t := by
  unfold ofDocument?
  rw [t.fields?_toJson]
  simp only [Option.bind_eq_bind, Option.bind_some, Document.required?, Document.choice?,
    Action.ofName?_name, Tier.ofName?_name, Document.omittable?_text, Document.list?_texts]

theorem TargetSchema.ofDocument?_toJson (s : TargetSchema) :
    ofDocument? (ofJson s.toJson) = some s := by
  have hfields : Document.fields? fields (ofJson s.toJson) =
      some [some (.text (some s.domain)), some (.text (some s.tableName)),
        some (ofJson (.texts s.sortColumns)), some (ofJson (.texts s.partitionColumns)),
        some (ofJson (.array (s.columns.map Column.toJson)))] := rfl
  unfold ofDocument?
  rw [hfields]
  simp only [Option.bind_eq_bind, Option.bind_some, Document.required?, Document.text?,
    Document.list?_texts, Document.list?_ofJson Column.ofDocument?_toJson]

theorem Linkage.ofDocument?_toJson (l : Linkage) : ofDocument? (ofJson l.toJson) = some l := by
  have hfields : Document.fields? fields (ofJson l.toJson) =
      some [some (.text (some l.sourceTier.name)), some (.text (some l.sourcePath)),
        some (.text (some l.sourceTable)), some (.text (some l.targetTier.name)),
        some (.text (some l.targetPath)), some (.text (some l.targetTable))] := rfl
  unfold ofDocument?
  rw [hfields]
  simp only [Option.bind_eq_bind, Option.bind_some, Document.required?, Document.text?,
    Document.choice?, Tier.ofName?_name]

/-! ## Source schemas -/

namespace SourceSchema

/-- What the unused members of a schema have to be for a reader to keep them: they are not
taken for fields, no name stands for two values, and no value is changed or refused. -/
structure KeepsExtra (s : SourceSchema) : Prop where
  apart : ∀ m ∈ s.extra, m.1 ∉ fields
  distinct : (Json.object s.extra).Distinct
  whole : (Json.object s.extra).IsWhole
  depth : (Json.object s.extra).depth ≤ Json.depthLimit

section Extra

variable {s : SourceSchema}

/-- The members of the document of a source schema. -/
def members (s : SourceSchema) : List (String × Document) :=
  [("domain", .text (some s.domain)), ("table_name", .text (some s.tableName))] ++
    s.extra.map (fun m => (m.1, ofJson m.2)) ++
    [("columns", ofJson (.array (s.columns.map Column.toJson)))]

theorem ofJson_toJson (s : SourceSchema) :
    ofJson s.toJson = .object (s.members.map fun m => (some m.1, m.2)) := by
  simp [toJson, members, Document.ofJson, Document.ofMembers_eq]

/-- No unused member has the name of a field. -/
theorem KeepsExtra.filter_field (hkeeps : s.KeepsExtra) {field : String} (hfield : field ∈ fields) :
    (s.extra.map fun m => (m.1, ofJson m.2)).filter (fun m => m.1 == field) = [] := by
  rw [List.filter_eq_nil_iff]
  intro m hm heq
  obtain ⟨m, hextra, rfl⟩ := List.mem_map.mp hm
  rw [beq_iff_eq] at heq
  exact hkeeps.apart m hextra (heq ▸ hfield)

theorem KeepsExtra.unrepeated_fields (hkeeps : s.KeepsExtra) :
    unrepeated fields s.members = true := by
  rw [unrepeated, List.all_eq_true]
  intro field hfield
  rw [members, List.filter_append, List.filter_append, hkeeps.filter_field hfield,
    List.append_nil, ← List.filter_append, decide_eq_true_iff]
  simp only [fields, List.mem_cons, List.not_mem_nil, or_false] at hfield
  obtain rfl | rfl | rfl := hfield <;> exact Nat.le_refl 1

theorem KeepsExtra.lookup_columns (hkeeps : s.KeepsExtra) :
    s.members.lookup "columns" = some (ofJson (.array (s.columns.map Column.toJson))) := by
  have hextra : (s.extra.map fun m => (m.1, ofJson m.2)).lookup "columns" = none := by
    rw [List.lookup_eq_none_iff]
    intro m hm
    obtain ⟨m, hextra, rfl⟩ := List.mem_map.mp hm
    rw [bne_iff_ne]
    rintro heq
    exact hkeeps.apart m hextra (heq ▸ by simp [fields])
  rw [members, List.lookup_append, List.lookup_append, hextra]
  rfl

/-- The unused members are what is left of the members without the fields. -/
theorem KeepsExtra.filter_members (hkeeps : s.KeepsExtra) :
    s.members.filter (fun m => !fields.contains m.1) =
      s.extra.map fun m => (m.1, ofJson m.2) := by
  rw [members, List.filter_append, List.filter_append]
  have hextra : (s.extra.map fun m => (m.1, ofJson m.2)).filter
      (fun m => !fields.contains m.1) = s.extra.map fun m => (m.1, ofJson m.2) := by
    rw [List.filter_eq_self]
    intro m hm
    obtain ⟨m, hextra, rfl⟩ := List.mem_map.mp hm
    simpa using hkeeps.apart m hextra
  rw [hextra]
  simp [fields]

/-- The values of the unused members are read as they were written. -/
theorem KeepsExtra.mapM_toJson? (hkeeps : s.KeepsExtra) :
    (s.members.filter fun m => !fields.contains m.1).mapM
      (fun m => (m.2.toJson? extraDepth).map (m.1, ·)) = some s.extra := by
  have hvalue (m : String × Json) (hm : m ∈ s.extra) :
      ((ofJson m.2).toJson? extraDepth).map (m.1, ·) =
        if m.2.depth ≤ extraDepth then some (id m) else none := by
    rw [Document.toJson?_ofJson m.2 (Json.distinctMembers_iff.mp hkeeps.distinct.2 m hm)]
    split <;> rfl
  have hdepth : ∀ m ∈ s.extra, m.2.depth ≤ extraDepth :=
    Json.membersDepth_le.mp (Nat.le_sub_one_of_lt hkeeps.depth)
  rw [hkeeps.filter_members, List.mapM_map, Function.comp_def, mapM_ite hvalue, if_pos hdepth,
    List.map_id]

theorem isWhole_toJson (hkeeps : s.KeepsExtra) : s.toJson.IsWhole := by
  have hextra := Json.isWholeMembers_iff.mp hkeeps.whole
  refine Json.isWholeMembers_iff.mpr fun m hm => ?_
  rcases List.mem_append.mp hm with hm | hcolumns
  · rcases List.mem_append.mp hm with hfield | hm
    · simp only [List.mem_cons, List.not_mem_nil, or_false] at hfield
      obtain rfl | rfl := hfield <;> trivial
    · exact hextra m hm
  · rw [List.mem_singleton.mp hcolumns]
    exact Json.isWholeItems_map Column.isWhole_toJson s.columns

/-- A source schema is read back with all its members. -/
theorem ofDocument?_toJson (hkeeps : s.KeepsExtra) : ofDocument? (ofJson s.toJson) = some s := by
  have hcolumns : (s.members.lookup "columns").bind (Document.list? Column.ofDocument?) =
      some s.columns := by
    rw [hkeeps.lookup_columns]
    exact Document.list?_ofJson Column.ofDocument?_toJson s.columns
  rw [s.ofJson_toJson, ofDocument?_object hkeeps.unrepeated_fields rfl rfl hcolumns
    hkeeps.mapM_toJson?, Json.setMembers_nil hkeeps.distinct.1]

end Extra

end SourceSchema

/-! ## All together -/

/-- The texts of target tables, target schemas, linkages and source schemas are read back as
what they were written for. -/
theorem artifacts_read_back :
    (∀ t : TargetTables, t.toJson.readAs? TargetTables.ofDocument? = some t) ∧
    (∀ s : TargetSchema, s.toJson.readAs? TargetSchema.ofDocument? = some s) ∧
    (∀ l : Linkage, l.toJson.readAs? Linkage.ofDocument? = some l) ∧
    ∀ s : SourceSchema, s.KeepsExtra → s.toJson.readAs? SourceSchema.ofDocument? = some s := by
  refine ⟨fun t => ?_, fun s => ?_, fun l => ?_, fun s hkeeps => ?_⟩
  · rw [Json.readAs?_of_isWhole t.isWhole_toJson, t.ofDocument?_toJson]
  · rw [Json.readAs?_of_isWhole s.isWhole_toJson, s.ofDocument?_toJson]
  · rw [Json.readAs?_of_isWhole l.isWhole_toJson, l.ofDocument?_toJson]
  · rw [Json.readAs?_of_isWhole (SourceSchema.isWhole_toJson hkeeps),
      SourceSchema.ofDocument?_toJson hkeeps]

namespace SourceSchema

/-- The schema of a sorted table, with a member that no part of the program knows. -/
def noted : SourceSchema where
  domain := "sales"
  tableName := "café \"T\""
  extra := [("sort_columns", .texts ["id"]), ("π", .object [("größe", .number (.integer (-3)))])]
  columns := [⟨"id", "int"⟩, ⟨"name", "varchar"⟩]

theorem noted_keepsExtra : noted.KeepsExtra where
  apart := by decide
  distinct := by simp [noted, Json.texts, Json.Distinct, Json.DistinctMembers, Json.DistinctItems]
  whole := by
    simp [noted, Json.texts, Json.IsWhole, Json.IsWholeMembers, Json.IsWholeItems,
      Number.IsWhole, Numeral.negativeLimit, Numeral.significandLimit]
  depth := by decide

end SourceSchema

theorem artifacts_read_back_noted :
    SourceSchema.noted.KeepsExtra ∧
      SourceSchema.noted.toJson.readAs? SourceSchema.ofDocument? = some SourceSchema.noted :=
  ⟨SourceSchema.noted_keepsExtra, artifacts_read_back.2.2.2 _ SourceSchema.noted_keepsExtra⟩

end Medallion
