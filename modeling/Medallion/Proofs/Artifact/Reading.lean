import Medallion.Artifact.Encoding
import Medallion.Proofs.Json.Documents
import Medallion.Store

/-!
# Reading artifacts back

The artifact of a target schema is read as the schema of a source table: the same columns
in the same order, with the sort and the partition columns among the members that are not
used (`ofDocument?_targetSchema`).  It is read from the text that the store writes
(`load_content`).

The text of a linkage tells the linkage's source table (`sourceTable_of_content`).
-/

namespace Medallion

open Document (ofJson ofItems)

/-! ## Lists -/

theorem Document.ofItems_map {α : Type} (write : α → Json) (xs : List α) :
    ofItems (xs.map write) = xs.map fun x => ofJson (write x) := by
  induction xs with
  | nil => rfl
  | cons x xs ih => rw [List.map_cons, ofItems, ih, List.map_cons]

/-- All of a list is read if each element has a property. -/
theorem mapM_ite {α β : Type} {read : α → Option β} {p : α → Prop} [DecidablePred p]
    {f : α → β} {xs : List α} (hread : ∀ x ∈ xs, read x = if p x then some (f x) else none) :
    xs.mapM read = if ∀ x ∈ xs, p x then some (xs.map f) else none := by
  induction xs with
  | nil => simp
  | cons x xs ih =>
    rw [List.forall_mem_cons] at hread
    rw [List.mapM_cons, hread.1, ih hread.2]
    by_cases hx : p x
    · by_cases hxs : ∀ y ∈ xs, p y
      · rw [if_pos hx, if_pos hxs, if_pos (List.forall_mem_cons.mpr ⟨hx, hxs⟩)]
        rfl
      · rw [if_pos hx, if_neg hxs, if_neg fun h => hxs (List.forall_mem_cons.mp h).2]
        rfl
    · rw [if_neg hx, if_neg fun h => hx (List.forall_mem_cons.mp h).1]
      rfl

theorem Document.list?_ofJson_ite {α : Type} {write : α → Json} {read : Document → Option α}
    {p : α → Prop} [DecidablePred p] {f : α → α} {xs : List α}
    (hread : ∀ x ∈ xs, read (ofJson (write x)) = if p x then some (f x) else none) :
    list? read (ofJson (.array (xs.map write))) =
      if ∀ x ∈ xs, p x then some (xs.map f) else none := by
  rw [ofJson, list?, ofItems_map, List.mapM_map]
  exact mapM_ite hread

/-- A list is read back if each of its items is. -/
theorem Document.list?_ofJson {α : Type} {write : α → Json} {read : Document → Option α}
    (hread : ∀ x, read (ofJson (write x)) = some x) (xs : List α) :
    list? read (ofJson (.array (xs.map write))) = some xs := by
  rw [list?_ofJson_ite (p := fun _ => True) (f := id) fun x _ => by rw [if_pos trivial, hread x, id],
    if_pos fun _ _ => trivial, List.map_id]

theorem Json.isWholeItems_iff {items : List Json} :
    IsWholeItems items ↔ ∀ item ∈ items, item.IsWhole := by
  induction items with
  | nil => simp [IsWholeItems]
  | cons item items ih => simp only [IsWholeItems, ih, List.forall_mem_cons]

theorem Json.isWholeItems_map {α : Type} {write : α → Json} (hwhole : ∀ x, (write x).IsWhole)
    (xs : List α) : IsWholeItems (xs.map write) := by
  rw [isWholeItems_iff, List.forall_mem_map]
  exact fun x _ => hwhole x

theorem Json.isWholeMembers_iff {members : List (String × Json)} :
    IsWholeMembers members ↔ ∀ m ∈ members, m.2.IsWhole := by
  induction members with
  | nil => simp [IsWholeMembers]
  | cons m members ih => simp only [IsWholeMembers, ih, List.forall_mem_cons]

theorem Json.isWhole_texts (ss : List String) : (texts ss).IsWhole :=
  isWholeItems_map (fun _ => by trivial) ss

/-- A list of texts has a value, at any depth that lets it be a list. -/
theorem Document.toJson?_texts (depth : Nat) (ss : List String) :
    toJson? (depth + 1) (ofJson (.texts ss)) = some (.texts ss) := by
  have hitems : itemsToJson? depth (ss.map fun s => ofJson (.text s)) =
      some (ss.map Json.text) := by
    induction ss with
    | nil => rfl
    | cons s ss ih =>
      rw [List.map_cons, itemsToJson?, ih]
      rfl
  rw [Json.texts, ofJson, toJson?, Document.ofItems_map, hitems]
  rfl

/-! ## Columns and schemas -/

theorem Column.ofDocument?_toJson (c : Column) : ofDocument? (ofJson c.toJson) = some c := rfl

theorem Column.isWhole_toJson (c : Column) : c.toJson.IsWhole := ⟨trivial, trivial, trivial⟩

/-- A target schema as the tier above reads it. -/
def TargetSchema.asSource (s : TargetSchema) : SourceSchema where
  domain := s.domain
  tableName := s.tableName
  extra :=
    [("sort_columns", .texts s.sortColumns), ("partition_columns", .texts s.partitionColumns)]
  columns := s.columns

theorem TargetSchema.isWhole_toJson (s : TargetSchema) : s.toJson.IsWhole := by
  exact ⟨trivial, trivial, Json.isWhole_texts s.sortColumns,
    Json.isWhole_texts s.partitionColumns, Json.isWholeItems_map Column.isWhole_toJson s.columns,
    trivial⟩

theorem Document.named?_some (members : List (String × Document)) :
    named? (members.map fun m => (some m.1, m.2)) = some members := by
  unfold named?
  induction members with
  | nil => rfl
  | cons m members ih =>
    rw [List.map_cons, List.mapM_cons, ih]
    rfl

/-- What a source schema is read from: its three fields, and the values of all other
members. -/
theorem SourceSchema.ofDocument?_object {members : List (String × Document)}
    {domain table : String} {columns : List Column} {extra : List (String × Json)}
    (hfields : Document.unrepeated fields members = true)
    (hdomain : members.lookup "domain" = some (.text (some domain)))
    (htable : members.lookup "table_name" = some (.text (some table)))
    (hcolumns : (members.lookup "columns").bind (Document.list? Column.ofDocument?) =
      some columns)
    (hextra : (members.filter fun m => !fields.contains m.1).mapM
      (fun m => (m.2.toJson? extraDepth).map (m.1, ·)) = some extra) :
    ofDocument? (.object (members.map fun m => (some m.1, m.2))) =
      some ⟨domain, table, Json.setMembers [] extra, columns⟩ := by
  unfold ofDocument?
  dsimp only
  rw [Document.named?_some, Option.bind_eq_bind, Option.bind_some, if_pos hfields, hdomain,
    htable, Document.required?, Document.required?, hcolumns, hextra]
  rfl

/-- The members of the document of a target schema. -/
def TargetSchema.members (s : TargetSchema) : List (String × Document) :=
  [("domain", .text (some s.domain)), ("table_name", .text (some s.tableName)),
    ("sort_columns", ofJson (.texts s.sortColumns)),
    ("partition_columns", ofJson (.texts s.partitionColumns)),
    ("columns", ofJson (.array (s.columns.map Column.toJson)))]

/-- The tier above reads a target schema as the schema of a source table. -/
theorem SourceSchema.ofDocument?_targetSchema (s : TargetSchema) :
    ofDocument? (ofJson s.toJson) = some s.asSource := by
  have hcolumns := Document.list?_ofJson Column.ofDocument?_toJson s.columns
  have hsort : (ofJson (.texts s.sortColumns)).toJson? extraDepth = some _ :=
    Document.toJson?_texts 125 s.sortColumns
  have hpartition : (ofJson (.texts s.partitionColumns)).toJson? extraDepth = some _ :=
    Document.toJson?_texts 125 s.partitionColumns
  have hextra : (s.members.filter fun m => !fields.contains m.1).mapM
      (fun m => (m.2.toJson? extraDepth).map (m.1, ·)) =
        some [("sort_columns", .texts s.sortColumns),
          ("partition_columns", .texts s.partitionColumns)] := by
    have hfilter : (s.members.filter fun m => !fields.contains m.1) =
        [("sort_columns", ofJson (.texts s.sortColumns)),
          ("partition_columns", ofJson (.texts s.partitionColumns))] := rfl
    rw [hfilter, List.mapM_cons, List.mapM_cons, hsort, hpartition]
    rfl
  exact @ofDocument?_object s.members _ _ _ _ rfl rfl rfl hcolumns hextra

/-! ## The text in the store -/

theorem fromUTF8?_toUTF8 (s : String) : String.fromUTF8? s.toUTF8 = some s := by
  rw [String.toUTF8_eq_toByteArray, String.fromUTF8?, dif_pos s.isValidUTF8]
  rfl

namespace Store

theorem content_inj {j j' : Json} : content j = content j' ↔ j.render = j'.render := by
  rw [content, content, Content.bytes.injEq, String.toUTF8_eq_toByteArray,
    String.toUTF8_eq_toByteArray, String.toByteArray_inj]

/-- What was written as an artifact is loaded as one. -/
theorem load_content {α : Type} {tree : FileTree} {path : Path} {json : Json}
    {read : Document → Option α} {a : α} (hread : tree.read path = .ok (content json))
    (hwhole : json.IsWhole) (hdocument : read (ofJson json) = some a) :
    load tree path read = .ok a := by
  have htext : tree.readText path = .ok json.render := by
    unfold FileTree.readText
    rw [hread]
    dsimp only [bind, Except.bind, content]
    rw [fromUTF8?_toUTF8]
  unfold load
  rw [htext]
  dsimp only
  rw [Document.parse?_render hwhole, Option.bind_some, hdocument]

end Store

/-! ## Linkages -/

theorem Linkage.isWhole_toJson (l : Linkage) : l.toJson.IsWhole :=
  ⟨trivial, trivial, trivial, trivial, trivial, trivial, trivial⟩

theorem Linkage.sourceTable_of_content {l l' : Linkage}
    (h : Store.content l.toJson = Store.content l'.toJson) : l.sourceTable = l'.sourceTable := by
  have hdocument :=
    Document.ofJson_of_render l.isWhole_toJson l'.isWhole_toJson (Store.content_inj.mp h)
  simp only [Linkage.toJson, Document.ofJson, Document.ofMembers, Document.object.injEq,
    List.cons.injEq, Prod.mk.injEq, Document.text.injEq, Option.some.injEq] at hdocument
  exact hdocument.2.2.1.2

end Medallion
