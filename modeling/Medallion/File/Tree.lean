import Medallion.File.Path
import Medallion.Sheet.Workbook

/-!
# File trees

The state of a file system, as a value: what stands at each location, a location being the
list of names from the root.  The root itself is always a directory.

Paths are walked name by name.  Every name that is followed by another one, or by a slash,
has to be a directory, also in front of `..`.  A walk fails on a name of more than 255
bytes, on a path of 4096 bytes, and on the null character.

A file holds bytes, or a workbook in its decoded form.  One file is written completely or
not at all.  `createDirs` makes a directory with all those above it; directories made
before a failure stay.
-/

namespace Medallion

/-- What a file holds. -/
inductive Content where
  | bytes (data : ByteArray)
  | workbook (book : Workbook)

instance : DecidableEq Content
  | .bytes a, .bytes b =>
    if h : a.data = b.data then isTrue (congrArg Content.bytes (ByteArray.ext h))
    else isFalse fun e => h (congrArg ByteArray.data (Content.bytes.inj e))
  | .workbook a, .workbook b =>
    if h : a = b then isTrue (congrArg Content.workbook h)
    else isFalse fun e => h (Content.workbook.inj e)
  | .bytes _, .workbook _ => isFalse Content.noConfusion
  | .workbook _, .bytes _ => isFalse Content.noConfusion

/-- What stands at a location. -/
inductive FileTree.Node where
  | directory
  | file (content : Content)
  deriving DecidableEq

/-- The names from the root to a place. -/
abbrev Location := List String

/-- Why an operation on files fails. -/
inductive FileError where
  | notFound
  | notDirectory
  | isDirectory
  | alreadyExists
  | nameTooLong
  | invalidName
  | notText
  deriving DecidableEq, Repr

/-- The wording of an error. -/
def FileError.message : FileError → String
  | .notFound => "no such file or directory"
  | .notDirectory => "not a directory"
  | .isDirectory => "is a directory"
  | .alreadyExists => "file exists"
  | .nameTooLong => "file name too long"
  | .invalidName => "the name contains a null character"
  | .notText => "the content is not valid UTF-8"

/-- A file system: the location that relative paths start from, and what stands where. -/
structure FileTree where
  workingDirectory : Location
  entries : List (Location × FileTree.Node)

namespace FileTree

/-- The largest number of bytes in a name. -/
def nameLimit : Nat := 255

/-- The least number of bytes that is too long for a path. -/
def pathLimit : Nat := 4096

/-- The file system that has nothing but an empty working directory. -/
def empty (name : String) : FileTree := ⟨[name], [([name], .directory)]⟩

/-- What stands at a location. -/
def lookup (tree : FileTree) (at_ : Location) : Option Node :=
  if at_ = [] then some .directory else tree.entries.lookup at_

/-- Replaces the entry of a location, or adds one. -/
def setEntry (at_ : Location) (node : Node) :
    List (Location × Node) → List (Location × Node)
  | [] => [(at_, node)]
  | (place, old) :: rest =>
    if place = at_ then (place, node) :: rest else (place, old) :: setEntry at_ node rest

/-- Puts a node at a location. -/
def set (tree : FileTree) (at_ : Location) (node : Node) : FileTree :=
  { tree with entries := setEntry at_ node tree.entries }

/-! ## Walking -/

/-- The location that some names lead to from a location.  The last one need not exist. -/
def walk (tree : FileTree) (at_ : Location) : List String → Except FileError Location
  | [] => .ok at_
  | name :: names =>
    match tree.lookup at_ with
    | none => .error .notFound
    | some (.file _) => .error .notDirectory
    | some .directory =>
      if Path.isHere name then tree.walk at_ names
      else if name = ".." then tree.walk at_.dropLast names
      else if nameLimit < name.utf8ByteSize then .error .nameTooLong
      else tree.walk (at_ ++ [name]) names

/-- The location where a path starts. -/
def start (tree : FileTree) (p : Path) : Location :=
  if p.isAbsolute then [] else tree.workingDirectory

/-- The location that a path leads to. -/
def resolve (tree : FileTree) (p : Path) : Except FileError Location :=
  if p.text = "" then .error .notFound
  else if p.text.toList.contains '\x00' then .error .invalidName
  else if pathLimit ≤ p.text.utf8ByteSize then .error .nameTooLong
  else tree.walk (tree.start p) p.names

/-- What a path leads to. -/
def node (tree : FileTree) (p : Path) : Except FileError Node := do
  match tree.lookup (← tree.resolve p) with
  | some n => .ok n
  | none => .error .notFound

/-- Whether a path leads anywhere. -/
def fileExists (tree : FileTree) (p : Path) : Bool :=
  match tree.node p with
  | .ok _ => true
  | .error _ => false

/-! ## Reading -/

/-- The content of the file that a path leads to. -/
def read (tree : FileTree) (p : Path) : Except FileError Content := do
  match ← tree.node p with
  | .directory => .error .isDirectory
  | .file content => .ok content

/-- The text of the file that a path leads to. -/
def readText (tree : FileTree) (p : Path) : Except FileError String := do
  match ← tree.read p with
  | .workbook _ => .error .notText
  | .bytes data =>
    match String.fromUTF8? data with
    | some s => .ok s
    | none => .error .notText

/-! ## Writing -/

/-- Writes a file, in a directory that exists. -/
def write (tree : FileTree) (p : Path) (content : Content) : Except FileError FileTree := do
  let place ← tree.resolve p
  match tree.lookup place with
  | some .directory => .error .isDirectory
  | _ => .ok (tree.set place (.file content))

/-- Makes the directory that some names lead to, in a directory that exists. -/
def createDir (tree : FileTree) (from_ : Location) (names : List String) :
    Except FileError FileTree := do
  let place ← tree.walk from_ names
  match tree.lookup place with
  | some _ => .error .alreadyExists
  | none => .ok (tree.set place .directory)

/-- Whether some names lead to a directory. -/
def leadsToDirectory (tree : FileTree) (from_ : Location) (names : List String) : Bool :=
  match tree.walk from_ names with
  | .ok place => tree.lookup place == some .directory
  | .error _ => false

/-- Makes the directory that some names, the last one first, lead to, and those above it.
The answer holds the tree also after a failure. -/
def createAbove (from_ : Location) : List String → FileTree → Except FileError Unit × FileTree
  | [], tree => (.ok (), tree)
  | name :: above, tree =>
    let names := (name :: above).reverse
    let settle (e : FileError) (tree : FileTree) : Except FileError Unit × FileTree :=
      (if tree.leadsToDirectory from_ names then .ok () else .error e, tree)
    match tree.createDir from_ names with
    | .ok made => (.ok (), made)
    | .error .notFound =>
      match createAbove from_ above tree with
      | (.error e, tree) => (.error e, tree)
      | (.ok _, tree) =>
        match tree.createDir from_ names with
        | .ok made => (.ok (), made)
        | .error e => settle e tree
    | .error e => settle e tree

/-- Makes the directory that a path leads to, and those above it. -/
def createDirs (tree : FileTree) (p : Path) : Except FileError Unit × FileTree :=
  if p.text.toList.contains '\x00' then (.error .invalidName, tree)
  else if pathLimit ≤ p.text.utf8ByteSize then (.error .nameTooLong, tree)
  else createAbove (tree.start p) p.steps.reverse tree

end FileTree

end Medallion
