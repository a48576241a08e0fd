import Medallion.Json.Value
import Medallion.Number.Layout

/-!
# Writing JSON values

Containers are written over several lines, with four blanks for each level, unless they are
empty.  Strings escape quotes, backslashes and control characters, and nothing else.

A binary number is written plainly, with at least one digit behind the point, when its
leading digit stands for a power of ten from -5 to 15, and with an exponent otherwise.
-/

namespace Medallion.Json

/-- How binary numbers are laid out. -/
def numberLayout : NumberLayout := ⟨.even, fun e => -5 ≤ e && e ≤ 15, true⟩

/-- The written form of a number. -/
def printNumber : Number → List Char
  | .integer i => decimalText i
  | .real x => x.write numberLayout

/-- A hexadecimal digit, in lower case. -/
def hexDigit (n : Nat) : Char := Nat.digitChar n

/-- The written form of a character in a string. -/
def printChar (c : Char) : List Char :=
  match c with
  | '"' => ['\\', '"']
  | '\\' => ['\\', '\\']
  | '\x08' => ['\\', 'b']
  | '\x0C' => ['\\', 'f']
  | '\n' => ['\\', 'n']
  | '\r' => ['\\', 'r']
  | '\t' => ['\\', 't']
  | c =>
    if c.toNat < 0x20 then
      ['\\', 'u', '0', '0', hexDigit (c.toNat / 16), hexDigit (c.toNat % 16)]
    else [c]

/-- The written form of a string. -/
def printText (s : String) : List Char := '"' :: s.toList.flatMap printChar ++ ['"']

/-- A line end, and the blanks in front of the next line. -/
def newline (level : Nat) : List Char := '\n' :: List.replicate (4 * level) ' '

mutual

/-- The written form of a value that stands at a level. -/
def print (level : Nat) : Json → List Char
  | .null => ['n', 'u', 'l', 'l']
  | .bool true => ['t', 'r', 'u', 'e']
  | .bool false => ['f', 'a', 'l', 's', 'e']
  | .number n => printNumber n
  | .text s => printText s
  | .array [] => ['[', ']']
  | .array (item :: items) =>
    '[' :: newline (level + 1) ++ print (level + 1) item ++ printItems (level + 1) items ++
      newline level ++ [']']
  | .object [] => ['{', '}']
  | .object ((name, value) :: members) =>
    '{' :: newline (level + 1) ++ printText name ++ [':', ' '] ++ print (level + 1) value ++
      printMembers (level + 1) members ++ newline level ++ ['}']

/-- The items of an array behind the first one. -/
def printItems (level : Nat) : List Json → List Char
  | [] => []
  | item :: items => ',' :: newline level ++ print level item ++ printItems level items

/-- The members of an object behind the first one. -/
def printMembers (level : Nat) : List (String × Json) → List Char
  | [] => []
  | (name, value) :: members =>
    ',' :: newline level ++ printText name ++ [':', ' '] ++ print level value ++
      printMembers level members

end

/-- The text that writes a value. -/
def render (j : Json) : String := String.ofList (print 0 j)

end Medallion.Json
