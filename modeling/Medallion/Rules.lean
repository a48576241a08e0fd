import Medallion.Specification
import Medallion.Text.Case
import Medallion.Tier

/-!
# Rules

The rules of a run say three things:

* which data type a type name of the source stands for (`Rules.mapType`);
* which tier feeds a tier (`feeder`);
* which headers a specification for a tier must have (`required`).

A type name is looked up without what follows the first opening parenthesis, without blanks
around it, and in lower case.  A name that is not known is a string.
-/

namespace Medallion

/-- A data type of an artifact. -/
inductive DataType where
  | integer
  | double
  | string
  | timestamp
  | long
  deriving DecidableEq, Repr, Inhabited

namespace DataType

/-- The data types. -/
def all : List DataType := [integer, double, string, timestamp, long]

/-- The name of a data type. -/
def name : DataType → String
  | integer => "integer"
  | double => "double"
  | string => "string"
  | timestamp => "timestamp"
  | long => "long"

/-- The data type of a name. -/
def ofName? (s : String) : Option DataType := all.find? fun t => t.name == s

theorem ofName?_name (t : DataType) : ofName? t.name = some t := by
  cases t <;> decide

end DataType

/-- The rules of a run. -/
structure Rules where
  /-- The data types of type names. -/
  typeMap : List (String × DataType)
  /-- The tier that feeds a tier. -/
  feeder : Tier → Option Tier
  /-- The headers that a specification for a tier must have. -/
  required : Tier → Option (List String)

namespace Rules

/-- The type names that are known unless the settings say otherwise. -/
def defaultTypeMap : List (String × DataType) :=
  [("smallint", .integer), ("int", .integer), ("integer", .integer),
   ("bigint", .long), ("long", .long),
   ("decimal", .double), ("double", .double),
   ("varchar", .string), ("uniqueidentifier", .string),
   ("datetime", .timestamp), ("date", .timestamp), ("timestamp", .timestamp)]

/-- Each tier is fed by the one below it. -/
def defaultFeeder : Tier → Option Tier
  | .landingZone => none
  | .bronze => some .landingZone
  | .silver => some .bronze
  | .gold => some .silver

/-- The landing zone needs the headers of names, the other tiers all headers. -/
def defaultRequired : Tier → Option (List String)
  | .landingZone => some Header.names
  | .bronze | .silver | .gold => some Header.all

/-- The rules that hold unless the settings say otherwise. -/
def default : Rules := ⟨defaultTypeMap, defaultFeeder, defaultRequired⟩

instance : Inhabited Rules := ⟨default⟩

/-- The form of a type name that is looked up. -/
def baseType (raw : String) : String :=
  Text.lower (Text.trim (String.ofList (raw.toList.takeWhile (· ≠ '('))))

/-- The data type that a type name stands for. -/
def mapType (rules : Rules) (raw : String) : DataType :=
  (rules.typeMap.lookup (baseType raw)).getD .string

/-- The data type that a type name stands for; no name stands for a string. -/
def mapOptionalType (rules : Rules) : Option String → DataType
  | some raw => rules.mapType raw
  | none => .string

end Rules

end Medallion
