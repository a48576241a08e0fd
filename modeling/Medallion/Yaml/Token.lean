/-!
# Tokens of YAML texts

The settings file is written in YAML: block and flow collections, plain and quoted scalars,
comments, document markers.  Anchors, tags, directives and block scalars are not read; a
text with one of them is refused.

`tokens?` turns a text into tokens that show the structure: where indentation opens or
closes a block collection there is a token for it, and a key that is only known as a key by
the colon behind it has a token in front of it.

* `Cursor` is the rest of the text with its line and column.
* `Scanner` is the state of the scan.  `indents` are the columns of the block collections
  that are open, and `keys` has for each flow level the place where a key may have started.
* A key without a question mark stands on one line and has at most 1024 bytes.
* A byte order mark at the start of a line is passed over, but it takes a column; anywhere
  else it is a character like others.

Each step reads at least one character or ends the scan, so the loop is bounded by the
length of the text.
-/

namespace Medallion.Yaml

/-- A token of a YAML text. -/
inductive Token where
  | documentStart
  | documentEnd
  | blockSequenceStart
  | blockMappingStart
  | blockEnd
  | flowSequenceStart
  | flowSequenceEnd
  | flowMappingStart
  | flowMappingEnd
  | blockEntry
  | flowEntry
  | key
  | value
  /-- A scalar; `plain` means that it is written without quotes. -/
  | scalar (text : String) (plain : Bool)
  deriving DecidableEq, Repr

/-! ## Characters -/

/-- Whether a character ends a line. -/
def isBreak (c : Char) : Bool := c = '\n' || c = '\u2028' || c = '\u2029'

/-- Whether a character is a blank within a line. -/
def isSpace (c : Char) : Bool := c = ' ' || c = '\t'

/-- The character that may stand at the start of a line without a meaning. -/
def byteOrderMark : Char := '\uFEFF'

/-- Whether a character may stand in a text. -/
def isPrintable (c : Char) : Bool :=
  c = '\t' || c = '\n' || c = '\r' || c = '\u0085' ||
    (' ' ≤ c && c ≤ '~') || ('\u00A0' ≤ c && c ≤ '\uFFFD') ||
    0x10000 ≤ c.toNat

/-- Writes every line end that stands for one as a line feed. -/
def unifyBreaks : List Char → List Char
  | '\r' :: '\n' :: cs => '\n' :: unifyBreaks cs
  | '\r' :: cs => '\n' :: unifyBreaks cs
  | '\u0085' :: cs => '\n' :: unifyBreaks cs
  | c :: cs => c :: unifyBreaks cs
  | [] => []

/-! ## Cursors -/

/-- The rest of a text, and where it stands. -/
structure Cursor where
  rest : List Char
  /-- The number of bytes that were read. -/
  index : Nat
  line : Nat
  column : Nat

namespace Cursor

/-- The next character. -/
def peek? (c : Cursor) : Option Char := c.rest.head?

/-- The character after the next one. -/
def second? (c : Cursor) : Option Char := c.rest.tail.head?

/-- Passes over a character. -/
def skip (c : Cursor) : Cursor :=
  match c.rest with
  | [] => c
  | ch :: rest =>
    if isBreak ch then ⟨rest, c.index + ch.utf8Size, c.line + 1, 0⟩
    else ⟨rest, c.index + ch.utf8Size, c.line, c.column + 1⟩

/-- Passes over some characters. -/
def skipMany (c : Cursor) : Nat → Cursor
  | 0 => c
  | n + 1 => c.skip.skipMany n

/-- Whether a character, or the end, parts words. -/
def isGap : Option Char → Bool
  | none => true
  | some ch => isSpace ch || isBreak ch

/-- Whether the cursor stands at the start of a line with a document marker. -/
def atMarker (c : Cursor) : Bool :=
  c.column == 0 &&
    (c.rest.take 3 == ['-', '-', '-'] || c.rest.take 3 == ['.', '.', '.']) &&
    isGap (c.rest.drop 3).head?

/-- Passes over the rest of a line. -/
def skipComment : (count : Nat) → Cursor → Cursor
  | 0, c => c
  | count + 1, c =>
    match c.peek? with
    | none => c
    | some ch => if isBreak ch then c else skipComment count c.skip

end Cursor

/-! ## Scalars -/

/-- Blanks and line ends between two words of a scalar, as they were read. -/
structure Gap where
  /-- Blanks before the first line end. -/
  spaces : List Char
  /-- The first line end. -/
  firstBreak : Option Char
  /-- The other line ends. -/
  moreBreaks : List Char

namespace Gap

/-- No gap. -/
def empty : Gap := ⟨[], none, []⟩

/-- The characters that a gap stands for: one line end becomes a blank, of several line
ends the first is dropped. -/
def text (g : Gap) : List Char :=
  match g.firstBreak with
  | none => g.spaces
  | some '\n' => if g.moreBreaks.isEmpty then [' '] else g.moreBreaks
  | some c => c :: g.moreBreaks

end Gap

/-- Reads blanks and line ends.  `floor` is the column that a tab must not stand before
once a line has ended; the answer is none if one does. -/
def readGap (floor : Option Nat) : (count : Nat) → Gap → Cursor → Option (Gap × Cursor)
  | 0, g, c => some (g, c)
  | count + 1, g, c =>
    match c.peek? with
    | none => some (g, c)
    | some ch =>
      if isBreak ch then
        match g.firstBreak with
        | none => readGap floor count { g with spaces := [], firstBreak := some ch } c.skip
        | some _ => readGap floor count { g with moreBreaks := g.moreBreaks ++ [ch] } c.skip
      else if isSpace ch then
        match g.firstBreak with
        | none => readGap floor count { g with spaces := g.spaces ++ [ch] } c.skip
        | some _ =>
          if ch = '\t' && floor.any (c.column < ·) then none
          else readGap floor count g c.skip
      else some (g, c)

/-- Whether a character ends a plain scalar inside a flow collection. -/
def isFlowMark (ch : Char) : Bool := [',', '[', ']', '{', '}'].contains ch

/-- Reads a word of a plain scalar; the answer is none where a colon stands directly before
a mark of a flow collection. -/
def readWord (flow : Bool) : (count : Nat) → List Char → Cursor →
    Option (List Char × Cursor)
  | 0, acc, c => some (acc, c)
  | count + 1, acc, c =>
    match c.peek? with
    | none => some (acc, c)
    | some ch =>
      if Cursor.isGap (some ch) then some (acc, c)
      else if flow && ch = ':' && c.second?.any (fun d => isFlowMark d || d = '?') then none
      else if ch = ':' && Cursor.isGap c.second? then some (acc, c)
      else if flow && isFlowMark ch then some (acc, c)
      else readWord flow count (ch :: acc) c.skip

/-- Reads a plain scalar: its characters, the last one first, and whether a line has ended
behind it.  A word behind a line end has to stand at the column `floor` or further on. -/
def readPlain (flow : Bool) (floor : Nat) : (count : Nat) → List Char → Gap → Cursor →
    Option (List Char × Bool × Cursor)
  | 0, acc, g, c => some (acc, g.firstBreak.isSome, c)
  | count + 1, acc, g, c => do
    let done := some (acc, g.firstBreak.isSome, c)
    if c.atMarker || c.peek? == some '#' then done
    else
      let (word, next) ← readWord flow c.rest.length [] c
      let (acc, g) :=
        if word.isEmpty then (acc, g) else (word ++ g.text.reverse ++ acc, Gap.empty)
      if !Cursor.isGap next.peek? || next.rest.isEmpty then
        some (acc, g.firstBreak.isSome, next)
      else
        let (g, after) ← readGap (some floor) next.rest.length g next
        if !flow && after.column < floor then some (acc, g.firstBreak.isSome, after)
        else readPlain flow floor count acc g after

/-- The value of a hexadecimal digit. -/
def hexValue? (c : Char) : Option Nat :=
  if '0' ≤ c ∧ c ≤ '9' then some (c.toNat - '0'.toNat)
  else if 'a' ≤ c ∧ c ≤ 'f' then some (c.toNat - 'a'.toNat + 10)
  else if 'A' ≤ c ∧ c ≤ 'F' then some (c.toNat - 'A'.toNat + 10)
  else none

/-- The character that an escape of one letter stands for. -/
def escaped? (c : Char) : Option Char :=
  match c with
  | '0' => some '\x00'
  | 'a' => some '\x07'
  | 'b' => some '\x08'
  | 't' | '\t' => some '\t'
  | 'n' => some '\n'
  | 'v' => some '\x0B'
  | 'f' => some '\x0C'
  | 'r' => some '\r'
  | 'e' => some '\x1B'
  | ' ' => some ' '
  | '"' => some '"'
  | '/' => some '/'
  | '\\' => some '\\'
  | 'N' => some '\u0085'
  | '_' => some '\u00A0'
  | 'L' => some '\u2028'
  | 'P' => some '\u2029'
  | _ => none

/-- The number of hexadecimal digits behind an escape's letter. -/
def hexLength? (c : Char) : Option Nat :=
  match c with
  | 'x' => some 2
  | 'u' => some 4
  | 'U' => some 8
  | _ => none

/-- The character that hexadecimal digits stand for. -/
def hexChar? (digits : List Char) : Option Char := do
  let n ← digits.foldlM (fun n d => (hexValue? d).map (16 * n + ·)) 0
  if n < 0xD800 ∨ (0xE000 ≤ n ∧ n < 0x110000) then some (Char.ofNat n) else none

/-- Reads an escape in a double-quoted scalar. -/
def readEscape (c : Cursor) : Option (Char × Cursor) := do
  let letter ← c.second?
  match hexLength? letter with
  | none => some (← escaped? letter, c.skipMany 2)
  | some n =>
    let digits := (c.rest.drop 2).take n
    if digits.length < n then none else some (← hexChar? digits, c.skipMany (2 + n))

/-- Reads a word of a quoted scalar: its characters, the last one first, and whether a line
end was escaped behind it. -/
def readQuotedWord (quote : Char) : (count : Nat) → List Char → Cursor →
    Option (List Char × Bool × Cursor)
  | 0, acc, c => some (acc, false, c)
  | count + 1, acc, c =>
    match c.peek? with
    | none => some (acc, false, c)
    | some ch =>
      if Cursor.isGap (some ch) then some (acc, false, c)
      else if ch = quote then
        if quote = '\'' && c.second? == some '\'' then
          readQuotedWord quote count ('\'' :: acc) (c.skipMany 2)
        else some (acc, false, c)
      else if quote = '"' && ch = '\\' then
        if c.second?.any isBreak then some (acc, true, c.skipMany 2)
        else do
          let (d, next) ← readEscape c
          readQuotedWord quote count (d :: acc) next
      else readQuotedWord quote count (ch :: acc) c.skip

/-- Reads a quoted scalar from behind its quote: its characters, the last one first. -/
def readQuoted (quote : Char) : (count : Nat) → List Char → Cursor →
    Option (List Char × Cursor)
  | 0, _, _ => none
  | count + 1, acc, c => do
    if c.atMarker || c.rest.isEmpty then none
    else
      let (word, escapedBreak, next) ← readQuotedWord quote c.rest.length [] c
      let acc := word ++ acc
      if next.peek? == some quote then some (acc, next.skip)
      else
        let start : Gap := if escapedBreak then ⟨[], some '\x00', []⟩ else .empty
        let (g, after) ← readGap none next.rest.length start next
        let gap := if escapedBreak then g.moreBreaks else g.text
        readQuoted quote count (gap.reverse ++ acc) after

/-! ## The scanner -/

/-- A place where a key may have started. -/
structure KeyStart where
  /-- The number of tokens in front of it. -/
  tokens : Nat
  index : Nat
  line : Nat
  column : Nat
  /-- Whether nothing but a key can stand here. -/
  required : Bool

/-- The state of the scan. -/
structure Scanner where
  cursor : Cursor
  /-- The tokens read so far. -/
  tokens : Array Token
  /-- The columns of the block collections that are open, innermost first. -/
  indents : List Nat
  /-- Whether a key may start at the next token. -/
  keyAllowed : Bool
  /-- The possible key of each flow level, innermost first. -/
  keys : List (Option KeyStart)

namespace Scanner

/-- The scan at the start of a text. -/
def start (cs : List Char) : Scanner := ⟨⟨cs, 0, 0, 0⟩, #[], [], true, [none]⟩

/-- Whether the scan is inside a flow collection. -/
def inFlow (s : Scanner) : Bool := 1 < s.keys.length

/-- Adds a token. -/
def emit (s : Scanner) (t : Token) : Scanner := { s with tokens := s.tokens.push t }

/-- Adds a token and passes over its characters. -/
def emitMark (s : Scanner) (t : Token) (length : Nat) : Scanner :=
  { s.emit t with cursor := s.cursor.skipMany length }

/-- Sets whether a key may start at the next token. -/
def allow (s : Scanner) (b : Bool) : Scanner := { s with keyAllowed := b }

/-- Closes the block collections that start behind a column; none closes all. -/
def closeBlocks (s : Scanner) (column : Option Nat) : Scanner :=
  if s.inFlow then s
  else
    let closing := s.indents.takeWhile fun i => column.all (· < i)
    { s with
      tokens := closing.foldl (fun ts _ => ts.push .blockEnd) s.tokens
      indents := s.indents.drop closing.length }

/-- Opens a block collection at a column behind the innermost one; its token goes to the
place `place` among the tokens. -/
def openBlock (s : Scanner) (column place : Nat) (t : Token) : Scanner :=
  if s.inFlow || s.indents.head?.any (column ≤ ·) then s
  else
    { s with
      tokens := s.tokens.extract 0 place ++ #[t] ++ s.tokens.extract place s.tokens.size
      indents := column :: s.indents }

/-- Gives up the possible key of the innermost level, unless it is required. -/
def dropKey (s : Scanner) : Option Scanner :=
  match s.keys with
  | some k :: keys => if k.required then none else some { s with keys := none :: keys }
  | _ => some s

/-- Notes that a key may start here. -/
def noteKey (s : Scanner) : Option Scanner :=
  if s.keyAllowed then do
    let s ← s.dropKey
    let required := !s.inFlow && s.indents.head? == some s.cursor.column
    let k : KeyStart :=
      ⟨s.tokens.size, s.cursor.index, s.cursor.line, s.cursor.column, required⟩
    some { s with keys := some k :: s.keys.tail }
  else some s

/-- The largest number of bytes in a key without a question mark. -/
def keyLimit : Nat := 1024

/-- Whether a possible key is too far away to be one. -/
def isStale (s : Scanner) (k : KeyStart) : Bool :=
  k.line < s.cursor.line || k.index + keyLimit < s.cursor.index

/-- Gives up all possible keys that are too far away; none if one of them is required. -/
def dropStale (s : Scanner) : Option Scanner :=
  if s.keys.any fun k => k.any fun k => s.isStale k && k.required then none
  else some { s with keys := s.keys.map fun k => k.filter fun k => !s.isStale k }

/-- Passes over blanks, comments and line ends in front of a token. -/
def skipToToken : (count : Nat) → Scanner → Scanner
  | 0, s => s
  | count + 1, s =>
    match s.cursor.peek? with
    | none => s
    | some ch =>
      if ch = ' ' || (ch = '\t' && (s.inFlow || !s.keyAllowed)) ||
          (ch = byteOrderMark && s.cursor.column = 0) then
        skipToToken count { s with cursor := s.cursor.skip }
      else if ch = '#' then
        skipToToken count
          { s with cursor := Cursor.skipComment s.cursor.rest.length s.cursor }
      else if isBreak ch then
        skipToToken count
          { s with cursor := s.cursor.skip, keyAllowed := s.keyAllowed || !s.inFlow }
      else s

/-- Reads the start of a flow collection. -/
def openFlow (s : Scanner) (t : Token) : Option Scanner := do
  let s ← s.noteKey
  some ((({ s with keys := none :: s.keys }).allow true).emitMark t 1)

/-- Reads the end of a flow collection. -/
def closeFlow (s : Scanner) (t : Token) : Option Scanner := do
  let s ← s.dropKey
  let keys := if s.inFlow then s.keys.tail else s.keys
  some ((({ s with keys := keys }).allow false).emitMark t 1)

/-- Reads a dash in front of an item. -/
def blockEntry (s : Scanner) : Option Scanner := do
  if !s.inFlow && !s.keyAllowed then none
  else
    let s := s.openBlock s.cursor.column s.tokens.size .blockSequenceStart
    let s ← s.dropKey
    some ((s.allow true).emitMark .blockEntry 1)

/-- Reads a question mark in front of a key. -/
def explicitKey (s : Scanner) : Option Scanner := do
  if !s.inFlow && !s.keyAllowed then none
  else
    let s := s.openBlock s.cursor.column s.tokens.size .blockMappingStart
    let s ← s.dropKey
    some ((s.allow (!s.inFlow)).emitMark .key 1)

/-- Reads a colon in front of a value.  It makes a key of the possible one. -/
def value (s : Scanner) : Option Scanner :=
  match s.keys with
  | some k :: keys =>
    let s := { s with keys := none :: keys }
    let tokens :=
      s.tokens.extract 0 k.tokens ++ #[.key] ++ s.tokens.extract k.tokens s.tokens.size
    let s := ({ s with tokens := tokens }).openBlock k.column k.tokens .blockMappingStart
    some ((s.allow false).emitMark .value 1)
  | _ =>
    if s.inFlow then some ((s.allow false).emitMark .value 1)
    else if s.keyAllowed then
      let s := s.openBlock s.cursor.column s.tokens.size .blockMappingStart
      some ((s.allow true).emitMark .value 1)
    else none

/-- Reads a document marker. -/
def marker (s : Scanner) (t : Token) : Option Scanner := do
  let s ← (s.closeBlocks none).dropKey
  some ((s.allow false).emitMark t 3)

/-- Reads a quoted scalar. -/
def quoted (s : Scanner) (quote : Char) : Option Scanner := do
  let s ← s.noteKey
  let (acc, next) ← readQuoted quote s.cursor.rest.length [] s.cursor.skip
  some ({ s.allow false with cursor := next }.emit (.scalar (String.ofList acc.reverse) false))

/-- Reads a plain scalar. -/
def plain (s : Scanner) : Option Scanner := do
  let s ← s.noteKey
  let floor := match s.indents with
    | i :: _ => i + 1
    | [] => 0
  let (acc, brokeLine, next) ←
    readPlain s.inFlow floor (s.cursor.rest.length + 1) [] .empty s.cursor
  some
    ({ s.allow brokeLine with cursor := next }.emit (.scalar (String.ofList acc.reverse) true))

/-- Characters that a plain scalar does not start with. -/
def indicators : List Char :=
  ['-', '?', ':', ',', '[', ']', '{', '}', '#', '&', '*', '!', '|', '>', '\'', '"', '%', '@',
   '\x60']

/-- Whether a plain scalar starts with a character, given the next one. -/
def startsPlain (inFlow : Bool) (c : Char) (next : Option Char) : Bool :=
  (!indicators.contains c && !isSpace c) ||
    (c = '-' && !(next.any isSpace)) ||
    (!inFlow && (c = '?' || c = ':') && !Cursor.isGap next)

/-- Reads the token that starts with a character. -/
def token (s : Scanner) (c : Char) : Option Scanner :=
  let next := s.cursor.second?
  if s.cursor.atMarker then s.marker (if c = '-' then .documentStart else .documentEnd)
  else if c = '[' then s.openFlow .flowSequenceStart
  else if c = '{' then s.openFlow .flowMappingStart
  else if c = ']' then s.closeFlow .flowSequenceEnd
  else if c = '}' then s.closeFlow .flowMappingEnd
  else if c = ',' then s.dropKey.map fun s => (s.allow true).emitMark .flowEntry 1
  else if c = '-' && Cursor.isGap next then s.blockEntry
  else if c = '?' && (s.inFlow || Cursor.isGap next) then s.explicitKey
  else if c = ':' && (s.inFlow || Cursor.isGap next) then s.value
  else if c = '\'' || c = '"' then s.quoted c
  else if startsPlain s.inFlow c next then s.plain
  else none

/-- Reads one token, or the end of the text. -/
def step (s : Scanner) : Option (Scanner × Bool) := do
  let s ← (skipToToken (s.cursor.rest.length + 1) s).dropStale
  match s.cursor.peek? with
  | none =>
    let s ← (s.closeBlocks none).dropKey
    some (s, true)
  | some c => (·, false) <$> (s.closeBlocks (some s.cursor.column)).token c

/-- Reads the rest of a text, in at most `count` steps. -/
def run : (count : Nat) → Scanner → Option Scanner
  | 0, _ => none
  | count + 1, s => do
    let (s, ended) ← s.step
    if ended then some s else run count s

end Scanner

/-- The tokens of a text. -/
def tokens? (text : String) : Option (List Token) :=
  if text.toList.all isPrintable then
    let cs := unifyBreaks text.toList
    (Scanner.run (cs.length + 2) (.start cs)).map (·.tokens.toList)
  else none

end Medallion.Yaml
