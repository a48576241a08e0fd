import Medallion.Arguments
import Medallion.Compilation
import Medallion.DataAreas
import Medallion.LogLevel
import Medallion.Settings

/-!
# The program

`run` loads a specification, compiles it and writes the artifacts.  The resolver reads the
artifacts of the tier below from the same store that is written to.

`execute` is the whole program as a function: from the arguments and the state of its
surroundings to what it prints, its exit code, and the file tree that it leaves.
-/

namespace Medallion.Program

/-- What the program finds around it. -/
structure Surroundings where
  tree : FileTree
  environment : Environment
  /-- Where the user's settings are kept. -/
  userDirectory : Path
  /-- Who knows the columns of database tables. -/
  introspector : Introspector

/-- What the program does. -/
structure Outcome where
  code : UInt8
  /-- The lines printed for the user. -/
  output : List String
  /-- The texts printed as messages, each with a line end behind it. -/
  messages : List String
  tree : FileTree

/-- The name of the program. -/
def name : String := "mc"

/-- The version of the program. -/
def version : String := "0.1.0"

/-- The compiler that some settings describe. -/
def compiler (s : Settings) (around : Surroundings) : Compiler :=
  let source : SchemaSource :=
    { rules := s.rules
      settings := s.source
      store := ⟨s.outputDirectory⟩
      secrets := .ofEnvironment around.environment
      introspector := around.introspector }
  { rules := s.rules
    output := s.output
    resolver := source.resolver around.tree
    audit := DataAreas.provider around.tree s.dataAreasPath }

/-- Compiles the specification in a file and writes the artifacts; the answer has the names
of the files. -/
def run (s : Settings) (around : Surroundings) (input : Path) (domain : String)
    (tier : Tier) : Saved (List String) :=
  match Specification.load around.tree input with
  | .error e => (.error e, around.tree)
  | .ok spec => (compiler s around).run ⟨s.outputDirectory⟩ spec domain tier around.tree

/-- The help text. -/
def usage : List String :=
  ["Compile mapping specifications into data pipeline configuration",
   "",
   "Usage: " ++ name ++ " [OPTIONS] --input <INPUT> --domain <DOMAIN> --target <TARGET>",
   "",
   "Options:",
   "  -i, --input <INPUT>          mapping file",
   "  -d, --domain <DOMAIN>        business domain",
   "  -t, --type <TYPE>            excel (default) or csv",
   "  -a, --target <TARGET>        landing-zone, bronze, silver or gold",
   "  -m, --mode <MODE>            debug (default) or live",
   "  -c, --config <CONFIG>        settings file",
   "  -l, --log-level <LOG_LEVEL>  log level",
   "  -h, --help                   print this text",
   "  -V, --version                print the version"]

/-- What the program does with arguments that it does not follow. -/
def refuse (around : Surroundings) : UsageError → Outcome
  | .displayHelp => ⟨0, usage, [], around.tree⟩
  | .displayVersion => ⟨0, [name ++ " " ++ version], [], around.tree⟩
  | e =>
    ⟨2, [], ["error: " ++ e.message, "", "For more information, try '--help'."], around.tree⟩

/-- A text of several lines with a text in front of the first line and another one in front
of the others; empty lines stay empty. -/
def indented (first others text : String) : String :=
  let indent (front line : String) : String := if line = "" then line else front ++ line
  match text.splitOn "\n" with
  | [] => ""
  | line :: lines => "\n".intercalate (indent first line :: lines.map (indent others))

/-- Causes with their numbers, from `n` on. -/
def numbered (n : Nat) : List String → List String
  | [] => []
  | cause :: causes =>
    indented ("   " ++ toString n ++ ": ") "      " cause :: numbered (n + 1) causes

/-- The texts about a failure, the outermost cause first.  What a cause says stands behind
an indentation on each of its lines. -/
def report (context : String) (causes : List String) : List String :=
  ["Error: " ++ context, "", "Caused by:"] ++
    match causes with
    | [cause] => [indented "    " "    " cause]
    | _ => numbered 0 causes

/-- The lines about the files that were written. -/
def summary (s : Settings) (args : Arguments) (files : List String) : List String :=
  let directory := (Store.mk s.outputDirectory).tierDirectory args.domain args.target
  (files.map fun file => "✓ " ++ (directory.join file).text) ++
    ["✓ Generated " ++ toString files.length ++ " files for " ++ args.domain ++ " " ++
      args.target.name] ++
    (match args.mode with
      | .debug => []
      | .live =>
        ["→ Live mode: upload " ++ directory.text ++ " with the deployment pipeline"])

/-- Runs the program for arguments that are understood. -/
def runArguments (args : Arguments) (around : Surroundings) : Outcome :=
  let level := args.logLevel <|>
    Settings.loadLogLevel around.tree around.userDirectory args.settingsFile
  let warnings := (LogLevel.warning? level).toList
  match Settings.load around.tree around.userDirectory args.settingsFile with
  | .error e =>
    ⟨1, [], warnings ++ report "Failed to load configuration" e.messages, around.tree⟩
  | .ok settings =>
    match run settings around args.input args.domain args.target with
    | (.error e, tree) =>
      ⟨1, [], warnings ++ report ("Failed to compile " ++ args.input.text) [e.message], tree⟩
    | (.ok files, tree) => ⟨0, summary settings args files, warnings, tree⟩

/-- Runs the program. -/
def execute (args : List String) (around : Surroundings) : Outcome :=
  match Arguments.parse args with
  | .error e => refuse around e
  | .ok args => runArguments args around

end Medallion.Program
