import Medallion.Consult

/-!
# Validation

A specification is fit for a tier when the tier has required headers, all of them are
there, some row names a source table, the schema of every source table is known, and every
source column that a row reads from a table is in the table's schema.

`validate` checks these in this order and stops at the first that fails.  The resolver is
asked once for each source table, in the order of the specification, until it fails.  A
specification that is fit is answered unchanged, with the schemas of its source tables.
-/

namespace Medallion

namespace Specification

/-- The required headers that are not there, in the order in which they are required. -/
def missingHeaders (spec : Specification) (required : List String) : List String :=
  required.filter fun h => !spec.hasHeader h

/-- The source columns that the rows of a source table read. -/
def referencedColumns (spec : Specification) (table : String) : List String :=
  Name.cleanse ((spec.rowsOfSource table).map (·.sourceColumn))

/-- The columns that rows read and a cache of schemas does not have. -/
def invalidColumns (spec : Specification) (schemas : SchemaCache) : List InvalidColumn :=
  spec.sourceTables.flatMap fun table =>
    match schemas.schema? table with
    | none => []
    | some schema =>
      ((spec.referencedColumns table).filter fun c => !schema.hasColumn c).map (⟨table, ·⟩)

end Specification

/-- Asks for the schemas of some tables, until the resolver fails. -/
def resolveAll (resolver : Resolver) (domain : String) (tier : Tier) :
    List String → Consult SchemaCache
  | [] => pure []
  | table :: tables => do
    let schema ← resolver.ask domain tier table
    let cache ← resolveAll resolver domain tier tables
    pure ((table, schema) :: cache)

/-- The required headers of a tier, once they are known to be there. -/
def checkHeaders (spec : Specification) (tier : Tier) (rules : Rules) :
    Except MapError Unit :=
  match rules.required tier with
  | none => .error (.unconfiguredTier tier)
  | some required =>
    match spec.missingHeaders required with
    | [] => .ok ()
    | missing => .error (.missingColumns missing)

/-- The source tables of a specification, once it is known that there are some. -/
def checkSourceTables (spec : Specification) (tier : Tier) : Except MapError (List String) :=
  match spec.sourceTables with
  | [] => .error (.noSourceTables tier)
  | tables => .ok tables

/-- A specification that is fit for a tier, with the schemas that it was checked against. -/
structure Validated where
  spec : Specification
  schemas : SchemaCache

/-- A specification with a cache, once it is known that the cache has every column that is
read. -/
def checkColumns (spec : Specification) (schemas : SchemaCache) : Except MapError Validated :=
  match spec.invalidColumns schemas with
  | [] => .ok ⟨spec, schemas⟩
  | invalid => .error (.invalidSourceColumns invalid)

/-- Checks a specification for a tier; the answer has it with the schemas of its source
tables. -/
def validate (spec : Specification) (domain : String) (tier : Tier) (rules : Rules)
    (resolver : Resolver) : Consult Validated := do
  Consult.ofExcept (checkHeaders spec tier rules)
  let tables ← Consult.ofExcept (checkSourceTables spec tier)
  let schemas ← resolveAll resolver domain tier tables
  Consult.ofExcept (checkColumns spec schemas)

end Medallion
