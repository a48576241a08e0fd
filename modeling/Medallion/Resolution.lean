import Medallion.Artifact.Encoding
import Medallion.Consult
import Medallion.Secret
import Medallion.Store

/-!
# Resolving source schemas

The schema of a source table depends on the tier that feeds the target tier:

* the landing zone is fed by the database, so the schema is asked of it, with a connection
  string from the secret store;
* bronze and silver have schema artifacts, so the schema is read from the store;
* nothing is fed by gold, and the lowest tier is fed by nothing.
-/

namespace Medallion

/-- Who knows the columns of database tables; the error says in words why there are
none. -/
abbrev Introspector := (connection table : String) → Except String (List Column)

/-- Where the settings say that the connection string is kept. -/
structure SourceSettings where
  keyVault : Option String
  secretName : Option String
  deriving DecidableEq, Repr, Inhabited

namespace SourceSettings

/-- The values that hold unless the settings say otherwise. -/
def default : SourceSettings := ⟨none, none⟩

end SourceSettings

/-- What a resolver of schemas works with. -/
structure SchemaSource where
  rules : Rules
  settings : SourceSettings
  store : Store
  secrets : SecretStore
  introspector : Introspector

namespace SchemaSource

/-- Asks the secret store. -/
def askSecret (source : SchemaSource) (vault name : String) : Consult String := do
  Consult.ask (.secret vault name)
  Consult.ofExcept ((source.secrets vault name).mapError (.secret vault name))

/-- Asks the database. -/
def askColumns (source : SchemaSource) (connection table : String) :
    Consult (List Column) := do
  Consult.ask (.introspect connection table)
  Consult.ofExcept ((source.introspector connection table).mapError (.introspection table))

/-- The schema of a table in the database. -/
def introspect (source : SchemaSource) (domain table : String) : Consult SourceSchema :=
  match source.settings.keyVault, source.settings.secretName with
  | some vault, some name => do
    let connection ← source.askSecret vault name
    let columns ← source.askColumns connection table
    pure (.ofColumns domain table columns)
  | vault, name =>
    Consult.ofExcept (.error (.secret (vault.getD "") (name.getD "")
      "source key vault and secret name must be configured"))

/-- The schema in the artifact of a tier. -/
def loadArtifact (source : SchemaSource) (tree : FileTree) (domain : String)
    (feeder : Tier) (table : String) : Except MapError SourceSchema :=
  Store.load tree (source.store.artifactPath domain feeder (schemaFileName feeder table))
    SourceSchema.ofDocument?

/-- The schema of a source table, for a file tree that holds the artifacts. -/
def resolver (source : SchemaSource) (tree : FileTree) : Resolver :=
  fun domain tier table =>
    match source.rules.feeder tier with
    | some .landingZone => source.introspect domain table
    | some .bronze => Consult.ofExcept (source.loadArtifact tree domain .bronze table)
    | some .silver => Consult.ofExcept (source.loadArtifact tree domain .silver table)
    | some .gold | none => Consult.ofExcept (.error (.unresolvedSchema tier))

end SchemaSource

end Medallion
