import Medallion.Json.Numeral

/-!
# Tokens of JSON texts

`tokens?` splits a text into tokens, one character at a time: `Lexer.step` is the step and
`List.foldlM` the loop, so reading `s ++ t` is reading `s` and going on with `t`.

A token can be well written and still stand for nothing: a number that is too large, or a
string in which an escape gives one half of a surrogate pair.  Such a token is kept without
its value, because a reader that passes over it does not ask for one.
-/

namespace Medallion

/-- A token of a JSON text. -/
inductive Token where
  | openBrace
  | closeBrace
  | openBracket
  | closeBracket
  | colon
  | comma
  | null
  | bool (b : Bool)
  | number (value : Option Number)
  | text (value : Option String)
  deriving DecidableEq, Repr

namespace Token

/-- A character of a string: as it is, or a 16-bit unit given by an escape. -/
inductive Piece where
  | char (c : Char)
  | unit (n : Nat)
  deriving DecidableEq, Repr

/-- The characters of a string, unless half of a surrogate pair stands alone. -/
def join? : List Piece → Option (List Char)
  | [] => some []
  | .char c :: ps => (join? ps).map (c :: ·)
  | .unit n :: ps =>
    if 0xD800 ≤ n ∧ n < 0xDC00 then
      match ps with
      | .unit m :: ps =>
        if 0xDC00 ≤ m ∧ m < 0xE000 then
          (join? ps).map (Char.ofNat (0x10000 + (n - 0xD800) * 0x400 + (m - 0xDC00)) :: ·)
        else none
      | _ => none
    else if 0xDC00 ≤ n ∧ n < 0xE000 then none
    else (join? ps).map (Char.ofNat n :: ·)

/-- The token of a word. -/
def ofWord? (letters : List Char) : Option Token :=
  if letters = ['n', 'u', 'l', 'l'] then some .null
  else if letters = ['t', 'r', 'u', 'e'] then some (.bool true)
  else if letters = ['f', 'a', 'l', 's', 'e'] then some (.bool false)
  else none

/-- The token of a numeral. -/
def ofNumeral? (cs : List Char) : Option Token :=
  (Numeral.read? cs).map fun n => .number n.value?

/-- The token of a string. -/
def ofPieces (ps : List Piece) : Token := .text ((join? ps).map String.ofList)

/-- The token of a single character. -/
def ofMark? (c : Char) : Option Token :=
  match c with
  | '{' => some .openBrace
  | '}' => some .closeBrace
  | '[' => some .openBracket
  | ']' => some .closeBracket
  | ':' => some .colon
  | ',' => some .comma
  | _ => none

end Token

/-! ## The lexer -/

namespace Lexer

open Token

/-- Where the lexer stands.  What was read of a token is kept with its last part first. -/
inductive Mode where
  | between
  | word (letters : List Char)
  | numeral (cs : List Char)
  | string (pieces : List Piece)
  /-- Behind a backslash. -/
  | escape (pieces : List Piece)
  /-- In the hexadecimal digits of an escape, of which `left` are still to come. -/
  | hex (pieces : List Piece) (left : Nat) (value : Nat)
  deriving DecidableEq, Repr

/-- The tokens read so far, the last one first, and where the lexer stands. -/
structure State where
  tokens : List Token
  mode : Mode
  deriving DecidableEq, Repr

/-- Blank space between tokens. -/
def isSpace (c : Char) : Bool := c = ' ' || c = '\n' || c = '\t' || c = '\r'

/-- Whether a character can stand in a numeral. -/
def inNumeral (c : Char) : Bool :=
  Decimal.isDigit c || c = '-' || c = '+' || c = '.' || c = 'e' || c = 'E'

/-- Whether a character can stand in a word. -/
def inWord (c : Char) : Bool := 'a' ≤ c && c ≤ 'z'

/-- The value of a hexadecimal digit. -/
def hexValue? (c : Char) : Option Nat :=
  if Decimal.isDigit c then some (c.toNat - '0'.toNat)
  else if 'a' ≤ c ∧ c ≤ 'f' then some (c.toNat - 'a'.toNat + 10)
  else if 'A' ≤ c ∧ c ≤ 'F' then some (c.toNat - 'A'.toNat + 10)
  else none

/-- The character that a one-letter escape stands for. -/
def escaped? (c : Char) : Option Char :=
  match c with
  | '"' => some '"'
  | '\\' => some '\\'
  | '/' => some '/'
  | 'b' => some '\x08'
  | 'f' => some '\x0C'
  | 'n' => some '\n'
  | 'r' => some '\r'
  | 't' => some '\t'
  | _ => none

/-- Starts with a character between tokens. -/
def begin_ (tokens : List Token) (c : Char) : Option State :=
  if isSpace c then some ⟨tokens, .between⟩
  else if c = '"' then some ⟨tokens, .string []⟩
  else if Decimal.isDigit c || c = '-' then some ⟨tokens, .numeral [c]⟩
  else if inWord c then some ⟨tokens, .word [c]⟩
  else (ofMark? c).map fun t => ⟨t :: tokens, .between⟩

/-- Reads one character. -/
def step (s : State) (c : Char) : Option State :=
  match s.mode with
  | .between => begin_ s.tokens c
  | .word letters =>
    if inWord c then some ⟨s.tokens, .word (c :: letters)⟩
    else (ofWord? letters.reverse).bind fun t => begin_ (t :: s.tokens) c
  | .numeral cs =>
    if inNumeral c then some ⟨s.tokens, .numeral (c :: cs)⟩
    else (ofNumeral? cs.reverse).bind fun t => begin_ (t :: s.tokens) c
  | .string pieces =>
    if c = '"' then some ⟨ofPieces pieces.reverse :: s.tokens, .between⟩
    else if c = '\\' then some ⟨s.tokens, .escape pieces⟩
    else if c.toNat < 0x20 then none
    else some ⟨s.tokens, .string (.char c :: pieces)⟩
  | .escape pieces =>
    if c = 'u' then some ⟨s.tokens, .hex pieces 4 0⟩
    else (escaped? c).map fun d => ⟨s.tokens, .string (.char d :: pieces)⟩
  | .hex pieces left value =>
    (hexValue? c).map fun d =>
      if left ≤ 1 then ⟨s.tokens, .string (.unit (16 * value + d) :: pieces)⟩
      else ⟨s.tokens, .hex pieces (left - 1) (16 * value + d)⟩

/-- The tokens at the end of the text, the last one first. -/
def finish? (s : State) : Option (List Token) :=
  match s.mode with
  | .between => some s.tokens
  | .word letters => (ofWord? letters.reverse).map (· :: s.tokens)
  | .numeral cs => (ofNumeral? cs.reverse).map (· :: s.tokens)
  | _ => none

end Lexer

/-- The tokens of a text. -/
def tokens? (cs : List Char) : Option (List Token) := do
  let s ← cs.foldlM Lexer.step ⟨[], .between⟩
  let ts ← Lexer.finish? s
  some ts.reverse

end Medallion
