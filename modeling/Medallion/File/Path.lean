/-!
# Paths

A path is a text; `Path.join` puts two of them together without simplifying either.  An
absolute part replaces what stands before it, and an empty last part leaves a slash at the
end.

`Path.names` are the parts between slashes, empty ones included, for a walk through
directories.  `Path.fileName?` and `Path.extension?` look at the last part that is a name.
-/

namespace Medallion

/-- A path of the file system, as written. -/
structure Path where
  text : String
  deriving DecidableEq, Repr, Inhabited

namespace Path

/-- Splits a list of characters at every slash. -/
def splitSlashes : List Char → List (List Char)
  | [] => [[]]
  | c :: cs =>
    if c = '/' then [] :: splitSlashes cs
    else
      match splitSlashes cs with
      | [] => [[c]]
      | part :: parts => (c :: part) :: parts

/-- Whether a path starts at the root directory. -/
def isAbsolute (p : Path) : Bool := p.text.toList.head? == some '/'

/-- Whether a path ends in a slash. -/
def endsInSlash (p : Path) : Bool := p.text.toList.getLast? == some '/'

/-- Puts a path below another one. -/
def join (p : Path) (part : String) : Path :=
  if (Path.mk part).isAbsolute then ⟨part⟩
  else if p.text = "" ∨ p.endsInSlash then ⟨p.text ++ part⟩
  else ⟨p.text ++ "/" ++ part⟩

/-- The parts between the slashes of a path. -/
def names (p : Path) : List String := (splitSlashes p.text.toList).map String.ofList

/-- Whether a part of a path names the directory that it stands in. -/
def isHere (name : String) : Bool := name = "" ∨ name = "."

/-- The parts that lead somewhere else. -/
def steps (p : Path) : List String := p.names.filter (!isHere ·)

/-- The last name of a path, unless it leads upwards. -/
def fileName? (p : Path) : Option String :=
  match p.steps.getLast? with
  | some name => if name = ".." then none else some name
  | none => none

/-- The part of a file name behind its last dot.  A dot in front of the name does not
count. -/
def extensionOf? (name : List Char) : Option (List Char) :=
  let behind := name.reverse.takeWhile (· ≠ '.')
  if name.length ≤ behind.length + 1 then none else some behind.reverse

/-- The extension of a path's file name. -/
def extension? (p : Path) : Option String :=
  p.fileName?.bind fun name => (extensionOf? name.toList).map String.ofList

end Path

end Medallion
