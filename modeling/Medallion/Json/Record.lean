import Medallion.Json.Document

/-!
# Reading records from JSON documents

A record with some fields is written as an object, with its fields in any order, or as the
list of its fields, in their order and none missing.  In the object form a field must not be
repeated, and members with other names are passed over, whatever they hold.

A choice between some names is written as a string, or as an object whose only member has
that name and holds nothing.
-/

namespace Medallion.Document

/-- The string that a document is. -/
def text? : Document → Option String
  | .text s => s
  | _ => none

/-- What a document that may be null stands for: null is nothing. -/
def optional? {α : Type} (read : Document → Option α) : Document → Option (Option α)
  | .null => some none
  | d => (read d).map some

/-- What the items of a list stand for. -/
def list? {α : Type} (read : Document → Option α) : Document → Option (List α)
  | .array items => items.mapM read
  | _ => none

/-- What a choice between names stands for. -/
def choice? {α : Type} (ofName? : String → Option α) : Document → Option α
  | .text (some s) => ofName? s
  | .object [(some s, .null)] => ofName? s
  | _ => none

/-- The members of an object, if every name is a text. -/
def named? (members : List (Option String × Document)) : Option (List (String × Document)) :=
  members.mapM fun (name, value) => name.map (·, value)

/-- Whether none of the fields is given twice. -/
def unrepeated (fields : List String) (members : List (String × Document)) : Bool :=
  fields.all fun f => (members.filter fun m => m.1 == f).length ≤ 1

/-- The fields of a record, in their order; one that is not given is none. -/
def fields? (fields : List String) : Document → Option (List (Option Document))
  | .object members => do
    let members ← named? members
    if unrepeated fields members then some (fields.map fun f => members.lookup f) else none
  | .array items => if items.length = fields.length then some (items.map some) else none
  | _ => none

/-- A field that must be given. -/
def required? {α : Type} (read : Document → Option α) (d : Option Document) : Option α :=
  d.bind read

/-- A field that can be left out, or be null. -/
def omittable? {α : Type} (read : Document → Option α) :
    Option Document → Option (Option α)
  | none => some none
  | some d => optional? read d

end Medallion.Document
