import Medallion.Yaml.Token

/-!
# Trees of YAML texts

A `Node` is a scalar, a list, or a list of pairs of a key and a value; a pair that is given
twice stays twice.  What is left out, such as the value of a key without one, is a plain
scalar without characters.

`Node.parse?` reads the one document of a text.  A text without a document, empty or with
comments only, has no node but is not refused.  The functions of the reader are bounded by
the number of tokens: every call that goes deeper follows a token that was read.
-/

namespace Medallion.Yaml

/-- A YAML value. -/
inductive Node where
  | scalar (text : String) (plain : Bool)
  | list (items : List Node)
  | map (pairs : List (Node × Node))
  deriving Repr, Inhabited

namespace Node

/-- What is read where a value is left out. -/
def absent : Node := .scalar "" true

/-- Whether a token ends what stands before it without being a value itself. -/
def stopsBlock : Token → Bool
  | .blockEntry | .key | .value | .blockEnd => true
  | _ => false

mutual

/-- Reads a value.  `block` allows block collections, `dashes` a list whose dashes are not
indented. -/
def node? : (count : Nat) → (block dashes : Bool) → List Token → Option (Node × List Token)
  | 0, _, _, _ => none
  | count + 1, block, dashes, ts =>
    match ts with
    | .scalar text plain :: ts => some (.scalar text plain, ts)
    | .flowSequenceStart :: ts => flowItems? count true [] ts
    | .flowMappingStart :: ts => flowPairs? count true [] ts
    | .blockEntry :: rest => if dashes then dashItems? count [] (.blockEntry :: rest) else none
    | .blockSequenceStart :: ts => if block then blockItems? count [] ts else none
    | .blockMappingStart :: ts => if block then blockPairs? count [] ts else none
    | _ => none

/-- Reads the items of an indented list. -/
def blockItems? : (count : Nat) → List Node → List Token → Option (Node × List Token)
  | 0, _, _ => none
  | count + 1, acc, ts =>
    match ts with
    | .blockEnd :: ts => some (.list acc.reverse, ts)
    | .blockEntry :: ts =>
      match ts with
      | .blockEntry :: _ | .blockEnd :: _ => blockItems? count (absent :: acc) ts
      | _ => do
        let (item, ts) ← node? count true false ts
        blockItems? count (item :: acc) ts
    | _ => none

/-- Reads the items of a list whose dashes are not indented; it ends with the dashes. -/
def dashItems? : (count : Nat) → List Node → List Token → Option (Node × List Token)
  | 0, _, _ => none
  | count + 1, acc, ts =>
    match ts with
    | .blockEntry :: ts =>
      match ts with
      | [] => some (.list (absent :: acc).reverse, [])
      | t :: _ =>
        if stopsBlock t then dashItems? count (absent :: acc) ts
        else do
          let (item, ts) ← node? count true false ts
          dashItems? count (item :: acc) ts
    | ts => some (.list acc.reverse, ts)

/-- Reads a key or a value of a block map, which may be left out. -/
def blockPart? : (count : Nat) → List Token → Option (Node × List Token)
  | 0, _ => none
  | count + 1, ts =>
    match ts with
    | .key :: _ | .value :: _ | .blockEnd :: _ => some (absent, ts)
    | ts => node? count true true ts

/-- Reads the pairs of a block map. -/
def blockPairs? : (count : Nat) → List (Node × Node) → List Token →
    Option (Node × List Token)
  | 0, _, _ => none
  | count + 1, acc, ts =>
    match ts with
    | .blockEnd :: ts => some (.map acc.reverse, ts)
    | .key :: ts => do
      let (key, ts) ← blockPart? count ts
      match ts with
      | .value :: ts =>
        let (value, ts) ← blockPart? count ts
        blockPairs? count ((key, value) :: acc) ts
      | ts => blockPairs? count ((key, absent) :: acc) ts
    | _ => none

/-- Reads a key or a value of a flow collection, which may be left out. -/
def flowPart? : (count : Nat) → (stop : Token) → List Token → Option (Node × List Token)
  | 0, _, _ => none
  | count + 1, stop, ts =>
    match ts with
    | t :: _ =>
      if t = .value ∨ t = .flowEntry ∨ t = stop then some (absent, ts)
      else node? count false false ts
    | [] => none

/-- Reads the key behind a question mark in a flow list.  A key that is left out takes the
mark that stands in its place away with it. -/
def flowListKey? : (count : Nat) → List Token → Option (Node × List Token)
  | 0, _ => none
  | count + 1, ts =>
    match ts with
    | .value :: ts | .flowEntry :: ts | .flowSequenceEnd :: ts => some (absent, ts)
    | ts => node? count false false ts

/-- Reads the value behind a key of a flow collection, if it has one. -/
def flowValue? : (count : Nat) → (stop : Token) → List Token → Option (Node × List Token)
  | 0, _, _ => none
  | count + 1, stop, ts =>
    match ts with
    | .value :: ts => flowPart? count stop ts
    | ts => some (absent, ts)

/-- Reads the items of a flow list.  An item with a colon is a map of one pair. -/
def flowItems? : (count : Nat) → (first : Bool) → List Node → List Token →
    Option (Node × List Token)
  | 0, _, _, _ => none
  | count + 1, first, acc, ts =>
    match ts with
    | .flowSequenceEnd :: ts => some (.list acc.reverse, ts)
    | ts => do
      let ts ← if first then some ts else
        match ts with
        | .flowEntry :: ts => some ts
        | _ => none
      match ts with
      | .flowSequenceEnd :: ts => some (.list acc.reverse, ts)
      | .key :: ts =>
        let (key, ts) ← flowListKey? count ts
        let (value, ts) ← flowValue? count .flowSequenceEnd ts
        flowItems? count false (.map [(key, value)] :: acc) ts
      | ts =>
        let (item, ts) ← node? count false false ts
        flowItems? count false (item :: acc) ts

/-- Reads the pairs of a flow map. -/
def flowPairs? : (count : Nat) → (first : Bool) → List (Node × Node) → List Token →
    Option (Node × List Token)
  | 0, _, _, _ => none
  | count + 1, first, acc, ts =>
    match ts with
    | .flowMappingEnd :: ts => some (.map acc.reverse, ts)
    | ts => do
      let ts ← if first then some ts else
        match ts with
        | .flowEntry :: ts => some ts
        | _ => none
      match ts with
      | .flowMappingEnd :: ts => some (.map acc.reverse, ts)
      | .key :: ts =>
        let (key, ts) ← flowPart? count .flowMappingEnd ts
        let (value, ts) ← flowValue? count .flowMappingEnd ts
        flowPairs? count false ((key, value) :: acc) ts
      | ts =>
        let (key, ts) ← node? count false false ts
        flowPairs? count false ((key, absent) :: acc) ts

end

/-- Passes over the ends of documents. -/
def skipEnds (ts : List Token) : List Token := ts.dropWhile (· = .documentEnd)

/-- The node of the one document that some tokens make up, if there is a document.  The end
of a document may stand behind it only. -/
def ofTokens? (ts : List Token) : Option (Option Node) := do
  let count := 4 * ts.length + 8
  match ts with
  | [] => some none
  | .documentStart :: ts =>
    match skipEnds ts, ts with
    | [], _ => some (some absent)
    | _, .documentStart :: _ | _, .documentEnd :: _ => none
    | _, ts =>
      let (node, ts) ← node? count true false ts
      if (skipEnds ts).isEmpty then some (some node) else none
  | ts =>
    let (node, ts) ← node? count true false ts
    if (skipEnds ts).isEmpty then some (some node) else none

/-- The node of the one document that a text writes, if there is a document. -/
def parse? (text : String) : Option (Option Node) := do ofTokens? (← tokens? text)

end Node

end Medallion.Yaml
