import Medallion.Number.Binary64

/-!
# JSON values

A number is a whole number of 64 bits, with or without a sign, or a binary number.  The
members of an object keep the order in which their names were first given; `setMember`
gives a name that is there a new value in its old place.
-/

namespace Medallion

/-- A number of a JSON value. -/
inductive Number where
  | integer (i : Int)
  | real (x : Binary64)
  deriving DecidableEq, Repr

/-- A JSON value. -/
inductive Json where
  | null
  | bool (b : Bool)
  | number (n : Number)
  | text (s : String)
  | array (items : List Json)
  | object (members : List (String × Json))
  deriving Repr, Inhabited

namespace Json

/-- Gives a name its value: in its place if it is there, at the end otherwise. -/
def setMember {α : Type} (name : String) (value : α) :
    List (String × α) → List (String × α)
  | [] => [(name, value)]
  | (n, v) :: rest =>
    if n = name then (n, value) :: rest else (n, v) :: setMember name value rest

/-- The members as they are after some pairs were given one after the other. -/
def setMembers {α : Type} (members pairs : List (String × α)) : List (String × α) :=
  pairs.foldl (fun ms (name, value) => setMember name value ms) members

/-- The value of a name. -/
def member? {α : Type} (name : String) (members : List (String × α)) : Option α :=
  members.lookup name

/-- The text that a value is, if it is one. -/
def text? : Json → Option String
  | .text s => some s
  | _ => none

/-- A list of texts as a value. -/
def texts (ss : List String) : Json := .array (ss.map .text)

end Json

end Medallion
