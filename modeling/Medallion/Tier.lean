/-!
# Tiers

Data moves through four tiers: from the landing zone to bronze, silver and gold.  Tables of
the two upper tiers are merged by a key; tables of the two lower ones are appended to, one
batch a day.
-/

namespace Medallion

/-- A tier of the data platform. -/
inductive Tier where
  | landingZone
  | bronze
  | silver
  | gold
  deriving DecidableEq, Repr, Inhabited

namespace Tier

/-- The tiers, the lowest first. -/
def all : List Tier := [landingZone, bronze, silver, gold]

/-- The name of a tier in artifacts, paths and arguments. -/
def name : Tier → String
  | landingZone => "landing-zone"
  | bronze => "bronze"
  | silver => "silver"
  | gold => "gold"

/-- The tier of a name. -/
def ofName? (s : String) : Option Tier := all.find? fun t => t.name == s

/-- Whether tables of the tier are merged by a key. -/
def merges : Tier → Bool
  | landingZone | bronze => false
  | silver | gold => true

theorem ofName?_name (t : Tier) : ofName? t.name = some t := by
  cases t <;> decide

end Tier

end Medallion
