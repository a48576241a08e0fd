import Medallion.Program

/-!
# The command line

`main` gathers what `Program.execute` has to know of the file system and the environment,
runs it, and carries out its outcome: the files that it leaves, the lines that it prints,
and its exit code.

The file system is looked at in stages, because what a run reads depends on what it has
read: the settings name the specification's surroundings, the specification names the
artifacts, and the artifacts name the files that are written.

Files are taken as bytes.  There is no decoder of workbooks and no database driver here, so
a workbook is not readable and a database never answers.
-/

namespace Medallion.CommandLine

/-! ## Looking at the file system -/

/-- The path of a location. -/
def locationText (at_ : Location) : String := "/" ++ "/".intercalate at_

/-- What stands at a location of the file system, if its directory is there. -/
def observe (at_ : Location) : IO (Option FileTree.Node) := do
  try
    return some (.file (.bytes (← IO.FS.readBinFile (locationText at_))))
  catch
    | .inappropriateType .. => return some .directory
    | _ => return none

/-- Adds what stands along some names, up to the first that is no directory. -/
def observeAlong (tree : FileTree) (at_ : Location) : List String → IO FileTree
  | [] => return tree
  | ".." :: names => observeAlong tree at_.dropLast names
  | name :: names => do
    let place := at_ ++ [name]
    match ← observe place with
    | none => return tree
    | some .directory => observeAlong (tree.set place .directory) place names
    | some node => return tree.set place node

/-- Adds what stands along some paths. -/
def observePaths (around : Program.Surroundings) (paths : List Path) :
    IO Program.Surroundings := do
  let observePath (tree : FileTree) (p : Path) := observeAlong tree (tree.start p) p.steps
  return { around with tree := ← paths.foldlM observePath around.tree }

/-! ## Gathering -/

/-- The user's directory of settings. -/
def userDirectory : IO Path := do
  match ← IO.getEnv "XDG_CONFIG_HOME" with
  | some directory =>
    if (Path.mk directory).isAbsolute then return ⟨directory⟩ else homeDirectory
  | none => homeDirectory
where
  /-- The directory of settings below the user's home. -/
  homeDirectory : IO Path := do
    return (Path.mk ((← IO.getEnv "HOME").getD "/")).join ".config"

/-- The working directory, and nothing else that is known. -/
def surroundings : IO Program.Surroundings := do
  let names := (Path.mk (toString (← IO.currentDir))).steps
  return {
    tree := ← observeAlong ⟨names, []⟩ [] names
    environment := []
    userDirectory := ← userDirectory
    introspector := fun _ _ => .error "no database can be reached" }

/-- The variable that holds the connection string, if it is set. -/
def secretVariable (source : SourceSettings) : IO Environment := do
  match source.keyVault, source.secretName with
  | some vault, some name =>
    let var := SecretStore.variableName vault name
    return ((← IO.getEnv var).map (var, ·)).toList
  | _, _ => return []

/-- The schema artifacts that the tables of a specification are resolved from. -/
def schemaPaths (s : Settings) (args : Arguments) (spec : Specification) : List Path :=
  match s.rules.feeder args.target with
  | none => []
  | some feeder => spec.sourceTables.map fun table =>
      (Store.mk s.outputDirectory).artifactPath args.domain feeder
        (schemaFileName feeder table)

/-- The files that some artifacts are written to. -/
def artifactPaths (s : Settings) (artifacts : CompiledArtifacts) : List Path :=
  artifacts.entries.map fun (file, _) =>
    (Store.mk s.outputDirectory).artifactPath artifacts.domain artifacts.tier file

/-- What a run with some settings has to know. -/
def gatherFor (s : Settings) (args : Arguments) (around : Program.Surroundings) :
    IO Program.Surroundings := do
  let known := { around with environment := ← secretVariable s.source }
  let known ← observePaths known [args.input, s.dataAreasPath, s.outputDirectory]
  match Specification.load known.tree args.input with
  | .error _ => return known
  | .ok spec =>
    let known ← observePaths known (schemaPaths s args spec)
    match ((Program.compiler s known).compile spec args.domain args.target).answer with
    | .error _ => return known
    | .ok artifacts => observePaths known (artifactPaths s artifacts)

/-- What a run has to know. -/
def gather (args : Arguments) (around : Program.Surroundings) :
    IO Program.Surroundings := do
  let known ← observePaths around
    (args.settingsFile.toList ++ [Settings.localFile, Settings.userFile around.userDirectory])
  match Settings.load known.tree known.userDirectory args.settingsFile with
  | .error _ => return known
  | .ok s => gatherFor s args known

/-! ## Carrying out -/

/-- Makes a directory or a file. -/
def put (at_ : Location) : FileTree.Node → IO Unit
  | .directory => IO.FS.createDirAll (locationText at_)
  | .file (.bytes data) => IO.FS.writeBinFile (locationText at_) data
  | .file (.workbook _) => pure ()

/-- Makes the directories and files that are not in a tree as they are in another one. -/
def putChanges (before after : FileTree) : IO Unit :=
  after.entries.forM fun (place, node) =>
    if before.lookup place = some node then pure () else put place node

/-- Carries out what the program does. -/
def carryOut (before : FileTree) (outcome : Program.Outcome) : IO UInt32 := do
  putChanges before outcome.tree
  outcome.messages.forM fun line => IO.eprintln line
  outcome.output.forM fun line => IO.println line
  return outcome.code.toUInt32

/-- Runs the program on the file system and the environment. -/
def run (args : List String) : IO UInt32 := do
  let around ← surroundings
  let known ← match Arguments.parse args with
    | .error _ => pure around
    | .ok parsed => gather parsed around
  carryOut known.tree (Program.execute args known)

end Medallion.CommandLine

/-- The entry point. -/
def main (args : List String) : IO UInt32 := Medallion.CommandLine.run args
