import Medallion.Artifact.Linkage
import Medallion.Artifact.Mapping
import Medallion.Artifact.TargetSchema
import Medallion.Artifact.TargetTables
import Medallion.Json.Print
import Medallion.Json.Record

/-!
# Artifacts as JSON

Each kind of artifact has `toJson`, the value that is written to its file, and
`ofDocument?`, which reads the artifact back from a JSON document.  The fields of each kind
are listed once, in the order in which they are written.

* The two places of the list of target tables that need not be set are left out of it.
* A source schema has the members that are not used between the name of its table and its
  columns.  It is the only record that is not read from a list.
* The source of a column mapping is tried as a direct one (exactly a name and a data type),
  then as an empty one, then as a function (any object).
-/

namespace Medallion

/-! ## Columns and source schemas -/

namespace Column

/-- The fields of a column. -/
def fields : List String := ["name", "type"]

/-- A column as it is written. -/
def toJson (c : Column) : Json := .object [("name", .text c.name), ("type", .text c.type)]

/-- Reads a column. -/
def ofDocument? (d : Document) : Option Column := do
  match ← d.fields? fields with
  | [name, type] => some ⟨← Document.required? Document.text? name,
      ← Document.required? Document.text? type⟩
  | _ => none

end Column

namespace SourceSchema

/-- The fields of a source schema. -/
def fields : List String := ["domain", "table_name", "columns"]

/-- A source schema as it is written. -/
def toJson (s : SourceSchema) : Json :=
  .object
    ([("domain", .text s.domain), ("table_name", .text s.tableName)] ++ s.extra ++
      [("columns", .array (s.columns.map Column.toJson))])

/-- The containers that an unused member may add: the schema is one itself. -/
def extraDepth : Nat := Json.depthLimit - 1

/-- Reads a source schema.  The domain can be left out. -/
def ofDocument? : Document → Option SourceSchema
  | .object members => do
    let members ← Document.named? members
    if Document.unrepeated fields members then
      let domain ← match members.lookup "domain" with
        | none => some ""
        | some d => d.text?
      let table ← Document.required? Document.text? (members.lookup "table_name")
      let columns ← Document.required? (Document.list? Column.ofDocument?)
        (members.lookup "columns")
      let extra ← (members.filter fun m => !fields.contains m.1).mapM fun (name, d) =>
        (d.toJson? extraDepth).map (name, ·)
      some ⟨domain, table, Json.setMembers [] extra, columns⟩
    else none
  | _ => none

end SourceSchema

/-! ## Target tables, target schemas and linkages -/

namespace TargetTables

/-- The fields of the list of target tables. -/
def fields : List String :=
  ["action", "target_data_area", "config_storage_account", "key_vault_name",
   "target_table_list"]

/-- A member that is written only if it is set. -/
def setField (name : String) (value : Option String) : List (String × Json) :=
  value.toList.map fun s => (name, .text s)

/-- The list of target tables as it is written. -/
def toJson (t : TargetTables) : Json :=
  .object
    ([("action", .text t.action.name), ("target_data_area", .text t.tier.name)] ++
      setField "config_storage_account" t.storageAccount ++
      setField "key_vault_name" t.keyVault ++
      [("target_table_list", .texts t.tables)])

/-- Reads the list of target tables. -/
def ofDocument? (d : Document) : Option TargetTables := do
  match ← d.fields? fields with
  | [action, tier, storageAccount, keyVault, tables] =>
    some ⟨← Document.required? (Document.choice? Action.ofName?) action,
      ← Document.required? (Document.choice? Tier.ofName?) tier,
      ← Document.omittable? Document.text? storageAccount,
      ← Document.omittable? Document.text? keyVault,
      ← Document.required? (Document.list? Document.text?) tables⟩
  | _ => none

end TargetTables

namespace TargetSchema

/-- The fields of a target schema. -/
def fields : List String :=
  ["domain", "table_name", "sort_columns", "partition_columns", "columns"]

/-- A target schema as it is written. -/
def toJson (s : TargetSchema) : Json :=
  .object
    [("domain", .text s.domain), ("table_name", .text s.tableName),
     ("sort_columns", .texts s.sortColumns),
     ("partition_columns", .texts s.partitionColumns),
     ("columns", .array (s.columns.map Column.toJson))]

/-- Reads a target schema. -/
def ofDocument? (d : Document) : Option TargetSchema := do
  match ← d.fields? fields with
  | [domain, table, sort, part, columns] =>
    some ⟨← Document.required? Document.text? domain,
      ← Document.required? Document.text? table,
      ← Document.required? (Document.list? Document.text?) sort,
      ← Document.required? (Document.list? Document.text?) part,
      ← Document.required? (Document.list? Column.ofDocument?) columns⟩
  | _ => none

end TargetSchema

namespace Linkage

/-- The fields of a linkage. -/
def fields : List String :=
  ["source_data_area", "source_table_path", "source_table_name", "target_data_area",
   "target_table_path", "target_table_name"]

/-- A linkage as it is written. -/
def toJson (l : Linkage) : Json :=
  .object
    [("source_data_area", .text l.sourceTier.name), ("source_table_path", .text l.sourcePath),
     ("source_table_name", .text l.sourceTable), ("target_data_area", .text l.targetTier.name),
     ("target_table_path", .text l.targetPath), ("target_table_name", .text l.targetTable)]

/-- Reads a linkage. -/
def ofDocument? (d : Document) : Option Linkage := do
  match ← d.fields? fields with
  | [sourceTier, sourcePath, sourceTable, targetTier, targetPath, targetTable] =>
    some ⟨← Document.required? (Document.choice? Tier.ofName?) sourceTier,
      ← Document.required? Document.text? sourcePath,
      ← Document.required? Document.text? sourceTable,
      ← Document.required? (Document.choice? Tier.ofName?) targetTier,
      ← Document.required? Document.text? targetPath,
      ← Document.required? Document.text? targetTable⟩
  | _ => none

end Linkage

/-! ## Mapping sets -/

namespace ColumnSource

/-- A source as it is written. -/
def toJson : ColumnSource → Json
  | .direct name type => .object [("name", .text name), ("type", .text type.name)]
  | .empty => .object []
  | .function members => .object members

/-- Reads a direct source: exactly a name and a data type. -/
def directOf? (d : Document) : Option ColumnSource :=
  let read (name type : Document) : Option ColumnSource := do
    some (.direct (← name.text?) (← type.choice? DataType.ofName?))
  match d with
  | .object [(some "name", name), (some "type", type)] => read name type
  | .object [(some "type", type), (some "name", name)] => read name type
  | .array [name, type] => read name type
  | _ => none

/-- Reads an empty source. -/
def emptyOf? : Document → Option ColumnSource
  | .object [] => some .empty
  | .array [] => some .empty
  | _ => none

/-- The containers that a source may stand in: a set, its list of columns, a column. -/
def outerDepth : Nat := 3

/-- Reads a source whose containers stand at most `depth` deep.  Its value has to exist
whichever kind it is. -/
def readWithin? (depth : Nat) (d : Document) : Option ColumnSource := do
  let value ← d.toJson? depth
  match directOf? d with
  | some source => some source
  | none =>
    match emptyOf? d with
    | some source => some source
    | none =>
      match value with
      | .object members => some (.function members)
      | _ => none

/-- Reads the source of a column in a mapping set. -/
def ofDocument? (d : Document) : Option ColumnSource :=
  readWithin? (Json.depthLimit - outerDepth) d

end ColumnSource

namespace ColumnMapping

/-- The fields of a column mapping. -/
def fields : List String := ["name", "type", "source"]

/-- A column mapping as it is written. -/
def toJson (c : ColumnMapping) : Json :=
  .object [("name", .text c.name), ("type", .text c.type.name), ("source", c.source.toJson)]

/-- Reads a column mapping. -/
def ofDocument? (d : Document) : Option ColumnMapping := do
  match ← d.fields? fields with
  | [name, type, source] =>
    some ⟨← Document.required? Document.text? name,
      ← Document.required? (Document.choice? DataType.ofName?) type,
      ← Document.required? ColumnSource.ofDocument? source⟩
  | _ => none

end ColumnMapping

namespace MappingSet

/-- The fields of a mapping set. -/
def fields : List String := ["domain", "table_name", "source", "target", "columns"]

/-- A mapping set as it is written. -/
def toJson (m : MappingSet) : Json :=
  .object
    [("domain", .text m.domain), ("table_name", .text m.tableName),
     ("source", .text m.source.name), ("target", .text m.target.name),
     ("columns", .array (m.columns.map ColumnMapping.toJson))]

/-- Reads a mapping set. -/
def ofDocument? (d : Document) : Option MappingSet := do
  match ← d.fields? fields with
  | [domain, table, source, target, columns] =>
    some ⟨← Document.required? Document.text? domain,
      ← Document.required? Document.text? table,
      ← Document.required? (Document.choice? Tier.ofName?) source,
      ← Document.required? (Document.choice? Tier.ofName?) target,
      ← Document.required? (Document.list? ColumnMapping.ofDocument?) columns⟩
  | _ => none

end MappingSet

end Medallion
