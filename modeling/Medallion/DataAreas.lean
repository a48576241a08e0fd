import Medallion.Artifact.Encoding
import Medallion.File.Tree

/-!
# Data areas

A JSON file of data areas has an object for each tier.  Its list `audit_columns` names the
columns that every table of the tier has for its upkeep.  A tier without an object, or with
an empty one, is not known; an object without the list has no audit columns.
-/

namespace Medallion.DataAreas

/-- The object of a tier, if it has one that is not empty. -/
def area? (areas : Json) (tier : Tier) : Option (List (String × Json)) :=
  match areas with
  | .object members =>
    match Json.member? tier.name members with
    | some (.object (m :: ms)) => some (m :: ms)
    | _ => none
  | _ => none

/-- The audit columns of a tier's object. -/
def columns (area : List (String × Json)) : Except AuditProblem (List Column) :=
  match Json.member? "audit_columns" area with
  | none => .ok []
  | some (.array items) =>
    match items.mapM fun item => Column.ofDocument? (.ofJson item) with
    | some cs => .ok cs
    | none => .error (.invalidColumn "it needs a name and a type, both strings")
  | some _ => .error .notAList

/-- The audit columns that a file of data areas gives. -/
def provider (tree : FileTree) (file : Path) : AuditProvider := fun tier =>
  match tree.readText file with
  | .error e => .error (.cannotRead file e.message)
  | .ok text =>
    match Json.parse? text with
    | none => .error (.cannotParse file "the text is not valid JSON")
    | some areas =>
      match area? areas tier with
      | none => .error (.areaNotFound file)
      | some area => columns area

/-- The audit columns that are given tier by tier. -/
def ofList (areas : List (Tier × List Column)) : AuditProvider := fun tier =>
  match areas.lookup tier with
  | some cs => .ok cs
  | none => .error .notConfigured

end Medallion.DataAreas
