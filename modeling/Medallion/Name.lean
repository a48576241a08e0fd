import Medallion.Text.Blank

/-!
# Names and their cleansing

Spreadsheet authors leave trailing blanks, invisible characters, empty cells and
repeated names behind.  Every list of table or column names is cleansed before it is
compared or emitted:

* a missing or empty name, and the markers `NaN` and `nan` of an empty number, give
  nothing;
* four characters that are not seen on a sheet are removed wherever they stand, and
  blank characters at both ends;
* of a list, the first occurrence of each name is kept.

The markers are recognised before anything is removed, so a marker that only comes to
light by the removal is a name.
-/

namespace Medallion.Name

open Medallion.Text

/-- The characters that are removed wherever they stand: the no-break space, the
zero-width space, the en quad and the Mongolian vowel separator. -/
def invisible : List Char := ['\u00A0', '\u200B', '\u2000', '\u180E']

/-- The spellings of an empty number cell. -/
def nullMarkers : List String := ["NaN", "nan"]

/-- Removes the invisible characters, then the blank characters at both ends. -/
def strip (cs : List Char) : List Char :=
  trimChars (cs.filter fun c => !invisible.contains c)

/-- The name that a cell's text stands for, if it stands for one. -/
def cleanse? (text : Option String) : Option String :=
  match text with
  | none => none
  | some s =>
    if s = "" ∨ s ∈ nullMarkers then none
    else
      match strip s.toList with
      | [] => none
      | name => some (String.ofList name)

/-- The names that a list of texts stands for, each once, in the order in which they
first occur. -/
def cleanse (texts : List (Option String)) : List String :=
  (texts.filterMap cleanse?).eraseDups

end Medallion.Name
