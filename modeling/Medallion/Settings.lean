import Medallion.File.Tree
import Medallion.Job
import Medallion.Resolution
import Medallion.Yaml.Node

/-!
# Settings

The settings of a run come from a YAML file.  Every setting can be left out; a section that
is there replaces only the settings it has, except that a table of the rules replaces the
whole default table.  Settings that are not known are passed over.

* Where text is wanted, any scalar is taken as it is written.  Where a setting need not be
  there, a null is the same as leaving it out.
* A setting that is given twice is refused.  In the tables of the rules, of a key that is
  given twice the last one counts.

The file is the one that the arguments name; without one it is looked for in the working
directory, then in the user's configuration directory.  Without any file the defaults hold.
-/

namespace Medallion

open Yaml (Node)

/-- The settings of a run. -/
structure Settings where
  outputDirectory : Path
  dataAreasFile : Option Path
  logLevel : Option String
  source : SourceSettings
  output : OutputSettings
  rules : Rules

namespace Settings

/-- The values that hold unless the file says otherwise. -/
def default : Settings :=
  { outputDirectory := ⟨"config"⟩
    dataAreasFile := none
    logLevel := none
    source := .default
    output := .default
    rules := .default }

instance : Inhabited Settings := ⟨default⟩

/-- The file of data areas: the one that is set, or one below the output directory. -/
def dataAreasPath (s : Settings) : Path :=
  s.dataAreasFile.getD ((s.outputDirectory.join "mint").join "mint_data_areas.json")

/-! ## Reading nodes -/

/-- The spellings of a null. -/
def nullWords : List String := ["", "~", "null", "Null", "NULL"]

/-- The text of a scalar. -/
def text? : Node → Option String
  | .scalar s _ => some s
  | _ => none

/-- What a node that may be null stands for. -/
def optional? {α : Type} (read : Node → Option α) : Node → Option (Option α)
  | .scalar s true =>
    if nullWords.contains s then some none else (read (.scalar s true)).map some
  | n => (read n).map some

/-- The items of a list; what is left out is an empty list. -/
def items? : Node → Option (List Node)
  | .list items => some items
  | .scalar "" true => some []
  | _ => none

/-- The pairs of a map with scalar keys; what is left out is an empty map. -/
def pairs? : Node → Option (List (String × Node))
  | .map pairs => pairs.mapM fun (key, value) => (text? key).map (·, value)
  | .scalar "" true => some []
  | _ => none

/-- The pairs of a section, if none of its known settings is given twice. -/
def section? (fields : List String) (n : Node) : Option (List (String × Node)) := do
  let pairs ← pairs? n
  if fields.all fun f => (pairs.filter fun p => p.1 == f).length ≤ 1 then some pairs else none

/-- The value of a setting, or its default. -/
def setting? {α : Type} (pairs : List (String × Node)) (name : String) (default : α)
    (read : Node → Option α) : Option α :=
  match pairs.lookup name with
  | some n => read n
  | none => some default

/-- A table with keys and values of some kinds, in the order of the file. -/
def table? {α β : Type} (key : String → Option α) (value : Node → Option β) (n : Node) :
    Option (List (α × β)) := do
  (← pairs? n).mapM fun (k, v) => do some (← key k, ← value v)

/-! ## Sections -/

/-- Reads the section on the source. -/
def source? (n : Node) : Option SourceSettings := do
  let pairs ← section? ["key-vault", "secret-name"] n
  some ⟨← setting? pairs "key-vault" none (optional? text?),
    ← setting? pairs "secret-name" none (optional? text?)⟩

/-- Reads the section on the output. -/
def output? (n : Node) : Option OutputSettings := do
  let pairs ← section? ["table-path", "config-storage-account", "key-vault-name"] n
  let d := OutputSettings.default
  some ⟨← setting? pairs "table-path" d.tablePath text?,
    ← setting? pairs "config-storage-account" d.storageAccount (optional? text?),
    ← setting? pairs "key-vault-name" d.keyVault (optional? text?)⟩

/-- Reads a table of type names.  Of a name that is given twice the last one counts. -/
def typeMap? (n : Node) : Option (List (String × DataType)) := do
  let pairs ← table? some (fun v => (text? v).bind DataType.ofName?) n
  some (Json.setMembers [] pairs)

/-- Reads a table of tiers.  Of a tier that is given twice the last one counts. -/
def tierTable? {α : Type} (value : Node → Option α) (n : Node) :
    Option (Tier → Option α) := do
  let pairs ← table? Tier.ofName? value n
  some fun tier => pairs.reverse.lookup tier

/-- Reads the section on the rules. -/
def rules? (n : Node) : Option Rules := do
  let pairs ← section? ["type-map", "upstream", "required-columns"] n
  let d := Rules.default
  some ⟨← setting? pairs "type-map" d.typeMap typeMap?,
    ← setting? pairs "upstream" d.feeder
      (tierTable? fun v => (text? v).bind Tier.ofName?),
    ← setting? pairs "required-columns" d.required
      (tierTable? fun v => (items? v).bind (·.mapM text?))⟩

/-- Reads the settings of a node. -/
def ofNode? (n : Node) : Option Settings := do
  let pairs ← section?
    ["output-dir", "data-areas-file", "log-level", "source", "output", "rules"] n
  let path? (n : Node) : Option Path := (text? n).map Path.mk
  some ⟨← setting? pairs "output-dir" default.outputDirectory path?,
    ← setting? pairs "data-areas-file" none (optional? path?),
    ← setting? pairs "log-level" none (optional? text?),
    ← setting? pairs "source" default.source source?,
    ← setting? pairs "output" default.output output?,
    ← setting? pairs "rules" default.rules rules?⟩

/-- Reads the settings of a text.  A text without a document gives the defaults. -/
def parse? (text : String) : Option Settings := do
  ofNode? ((← Node.parse? text).getD Node.absent)

/-- Reads nothing but the log level of a text, so that a fault in other settings does not
hide it. -/
def parseLogLevel? (text : String) : Option (Option String) := do
  let pairs ← section? ["log-level"] ((← Node.parse? text).getD Node.absent)
  setting? pairs "log-level" none (optional? text?)

/-! ## Files -/

/-- What was done with the settings file when it failed. -/
inductive Fault where
  | read
  | parse
  deriving DecidableEq, Repr

/-- Why there are no settings. -/
structure Error where
  /-- The file that the arguments name, if they name one. -/
  named : Option Path
  fault : Fault
  deriving DecidableEq, Repr

/-- The wording of an error, the outermost line first. -/
def Error.messages (e : Error) : List String :=
  (e.named.map fun file => "Failed to load config from " ++ file.text).toList ++
    [match e.fault with
      | .read => "Failed to read config file"
      | .parse => "Failed to parse config file"]

/-- The settings file in the working directory. -/
def localFile : Path := ⟨"mapcompiler.yml"⟩

/-- The settings file in a user's configuration directory. -/
def userFile (directory : Path) : Path := (directory.join "mapcompiler").join "mapcompiler.yml"

/-- The settings file that is used when the arguments name none. -/
def findFile (tree : FileTree) (userDirectory : Path) : Option Path :=
  [localFile, userFile userDirectory].find? tree.fileExists

/-- Reads the settings in a file. -/
def ofFile (tree : FileTree) (file : Path) : Except Fault Settings :=
  match tree.readText file with
  | .error _ => .error .read
  | .ok text =>
    match parse? text with
    | some s => .ok s
    | none => .error .parse

/-- The settings of a run. -/
def load (tree : FileTree) (userDirectory : Path) (named : Option Path) :
    Except Error Settings :=
  match named with
  | some file => (ofFile tree file).mapError (⟨some file, ·⟩)
  | none =>
    match findFile tree userDirectory with
    | some file => (ofFile tree file).mapError (⟨none, ·⟩)
    | none => .ok default

/-- The log level in the settings file, if it can be read. -/
def loadLogLevel (tree : FileTree) (userDirectory : Path) (named : Option Path) :
    Option String := do
  let file ← named <|> findFile tree userDirectory
  let text ← (tree.readText file).toOption
  (← parseLogLevel? text)

end Settings

end Medallion
