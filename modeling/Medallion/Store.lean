import Medallion.Error
import Medallion.File.Tree
import Medallion.Json.Document
import Medallion.Json.Print

/-!
# The store of artifacts

Artifacts are files below a root directory, one directory for each tier of a domain:
`<root>/domains/<domain>/<tier>/<file>`.  Paths are put together as they are written
(`Path.join`), so a domain or a file name that is not a plain name can lead elsewhere.

`save` makes the directory of the tier and writes one file.  It answers with the file tree
as it is afterwards, also when it fails.
-/

namespace Medallion

/-- A store of artifacts, given by its root directory. -/
structure Store where
  root : Path
  deriving DecidableEq, Repr

/-- The file tree after an operation, and whether the operation succeeded. -/
abbrev Saved (α : Type) := Except MapError α × FileTree

namespace Store

/-- The directory of a tier. -/
def tierDirectory (store : Store) (domain : String) (tier : Tier) : Path :=
  ((store.root.join "domains").join domain).join tier.name

/-- The path of an artifact. -/
def artifactPath (store : Store) (domain : String) (tier : Tier) (file : String) : Path :=
  (store.tierDirectory domain tier).join file

/-- The text of an artifact, as its file holds it. -/
def content (json : Json) : Content := .bytes json.render.toUTF8

/-- Reads an artifact from its file. -/
def load {α : Type} (tree : FileTree) (path : Path) (read : Document → Option α) :
    Except MapError α :=
  match tree.readText path with
  | .error .notFound => .error (.artifactNotFound path)
  | .error e => .error (.malformedArtifact path e.message)
  | .ok text =>
    match (Document.parse? text).bind read with
    | some a => .ok a
    | none => .error (.malformedArtifact path "the text is not an artifact of this kind")

/-- Writes an artifact into the directory of a tier. -/
def save (store : Store) (domain : String) (tier : Tier) (file : String) (json : Json)
    (tree : FileTree) : Saved Path :=
  let directory := store.tierDirectory domain tier
  match tree.createDirs directory with
  | (.error e, tree) => (.error (.createDirectory directory e.message), tree)
  | (.ok _, tree) =>
    let path := store.artifactPath domain tier file
    match tree.write path (content json) with
    | .error e => (.error (.write path e.message), tree)
    | .ok tree => (.ok path, tree)

end Store

end Medallion
