import Medallion.Json.Token

/-!
# JSON documents as written

A `Document` is a JSON text in the shape of a tree, before anything is asked of it.  An
object keeps all its members, repeated names included, and a number or string without a
value (see `Token`) stays in the tree.

* `parse?` reads a document.  It walks over the tokens with a stack of the containers that
  are still open (`Parser.step`), so it takes any depth.
* `toJson?` is the value of a document: every leaf has to have a value, containers stand at
  most `depth` deep in each other, and of a repeated name the last value counts.

A reader of records looks at the members it knows and passes over the others, so only the
parts it takes are turned into values.
-/

namespace Medallion

/-- A JSON text as a tree. -/
inductive Document where
  | null
  | bool (b : Bool)
  | number (value : Option Number)
  | text (value : Option String)
  | array (items : List Document)
  | object (members : List (Option String × Document))
  deriving Repr, Inhabited

namespace Parser

/-- A container that is still open.  What was read of it is kept with the last part
first. -/
inductive Frame where
  | array (items : List Document)
  /-- The members, and the name of the value to come. -/
  | object (members : List (Option String × Document)) (name : Option String)

/-- What has to come. -/
inductive Expect where
  | value
  /-- The first item of an array, or its end. -/
  | itemOrEnd
  /-- The first name of an object, or its end. -/
  | nameOrEnd
  /-- A name behind a comma. -/
  | name (members : List (Option String × Document))
  | colon (members : List (Option String × Document)) (name : Option String)
  /-- What follows a value that is complete. -/
  | after (value : Document)

/-- The containers that are open, innermost first, and what has to come. -/
structure State where
  frames : List Frame
  expect : Expect

/-- Starts a value with a token. -/
def value? (frames : List Frame) : Token → Option State
  | .null => some ⟨frames, .after .null⟩
  | .bool b => some ⟨frames, .after (.bool b)⟩
  | .number n => some ⟨frames, .after (.number n)⟩
  | .text s => some ⟨frames, .after (.text s)⟩
  | .openBracket => some ⟨frames, .itemOrEnd⟩
  | .openBrace => some ⟨frames, .nameOrEnd⟩
  | _ => none

/-- Goes on behind a value with a token. -/
def after? (frames : List Frame) (value : Document) (t : Token) : Option State :=
  match frames, t with
  | .array items :: frames, .comma => some ⟨.array (value :: items) :: frames, .value⟩
  | .array items :: frames, .closeBracket =>
    some ⟨frames, .after (.array (value :: items).reverse)⟩
  | .object members name :: frames, .comma => some ⟨frames, .name ((name, value) :: members)⟩
  | .object members name :: frames, .closeBrace =>
    some ⟨frames, .after (.object ((name, value) :: members).reverse)⟩
  | _, _ => none

/-- Reads one token. -/
def step (s : State) (t : Token) : Option State :=
  match s.expect, t with
  | .value, t => value? s.frames t
  | .itemOrEnd, .closeBracket => some ⟨s.frames, .after (.array [])⟩
  | .itemOrEnd, t => value? (.array [] :: s.frames) t
  | .nameOrEnd, .closeBrace => some ⟨s.frames, .after (.object [])⟩
  | .nameOrEnd, .text name => some ⟨s.frames, .colon [] name⟩
  | .name members, .text name => some ⟨s.frames, .colon members name⟩
  | .colon members name, .colon => some ⟨.object members name :: s.frames, .value⟩
  | .after value, t => after? s.frames value t
  | _, _ => none

/-- The document that was read, if it is complete. -/
def finish? : State → Option Document
  | ⟨[], .after value⟩ => some value
  | _ => none

/-- The document that some tokens make up. -/
def ofTokens? (ts : List Token) : Option Document := do
  finish? (← ts.foldlM step ⟨[], .value⟩)

end Parser

namespace Document

/-- The document that a text writes. -/
def parse? (s : String) : Option Document := do
  Parser.ofTokens? (← tokens? s.toList)

mutual

/-- The value of a document whose containers stand at most `depth` deep. -/
def toJson? : (depth : Nat) → Document → Option Json
  | _, .null => some .null
  | _, .bool b => some (.bool b)
  | _, .number n => n.map .number
  | _, .text s => s.map .text
  | 0, .array _ => none
  | depth + 1, .array items => (itemsToJson? depth items).map .array
  | 0, .object _ => none
  | depth + 1, .object members =>
    (membersToJson? depth members).map fun ms => .object (Json.setMembers [] ms)

/-- The values of the items of an array. -/
def itemsToJson? : (depth : Nat) → List Document → Option (List Json)
  | _, [] => some []
  | depth, item :: items => do
    let value ← toJson? depth item
    let values ← itemsToJson? depth items
    some (value :: values)

/-- The values of the members of an object, as they are written. -/
def membersToJson? : (depth : Nat) → List (Option String × Document) →
    Option (List (String × Json))
  | _, [] => some []
  | depth, (name, item) :: members => do
    let name ← name
    let value ← toJson? depth item
    let values ← membersToJson? depth members
    some ((name, value) :: values)

end

mutual

/-- The document that writes a value. -/
def ofJson : Json → Document
  | .null => .null
  | .bool b => .bool b
  | .number n => .number (some n)
  | .text s => .text (some s)
  | .array items => .array (ofItems items)
  | .object members => .object (ofMembers members)

/-- The documents of the items of an array. -/
def ofItems : List Json → List Document
  | [] => []
  | item :: items => ofJson item :: ofItems items

/-- The documents of the members of an object. -/
def ofMembers : List (String × Json) → List (Option String × Document)
  | [] => []
  | (name, value) :: members => (some name, ofJson value) :: ofMembers members

end

end Document

/-- The largest number of containers that stand in each other. -/
def Json.depthLimit : Nat := 127

/-- The value that a text writes. -/
def Json.parse? (s : String) : Option Json := do
  (← Document.parse? s).toJson? Json.depthLimit

end Medallion
