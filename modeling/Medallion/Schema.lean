import Medallion.Json.Value
import Medallion.Rules

/-!
# Schemas of source tables

A source schema lists the columns of a table that a specification reads from.  It comes
from the database or from the schema artifact of the tier below; in the second case the
members of the artifact that are not used here are kept, in their order, so that the schema
can be written again as it was.
-/

namespace Medallion

/-- A column of a table, with the type name that its store uses. -/
structure Column where
  name : String
  type : String
  deriving DecidableEq, Repr, Inhabited

/-- The schema of a source table. -/
structure SourceSchema where
  domain : String
  tableName : String
  /-- The members of the artifact that are not used. -/
  extra : List (String × Json)
  columns : List Column
  deriving Repr, Inhabited

namespace SourceSchema

/-- The schema of a table with nothing but its columns. -/
def ofColumns (domain table : String) (columns : List Column) : SourceSchema :=
  ⟨domain, table, [], columns⟩

/-- The first column with a name. -/
def column? (schema : SourceSchema) (name : String) : Option Column :=
  schema.columns.find? fun c => c.name == name

/-- Whether there is a column with a name. -/
def hasColumn (schema : SourceSchema) (name : String) : Bool := (schema.column? name).isSome

/-- The schema with every column read as a string, the form in which data lands. -/
def allStrings (schema : SourceSchema) : SourceSchema :=
  { schema with
    columns := schema.columns.map fun c => { c with type := DataType.string.name } }

end SourceSchema

/-- The schemas of source tables, by table. -/
abbrev SchemaCache := List (String × SourceSchema)

namespace SchemaCache

/-- The schema of a table. -/
def schema? (cache : SchemaCache) (table : String) : Option SourceSchema := cache.lookup table

end SchemaCache

end Medallion
