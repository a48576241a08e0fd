/-!
# Control characters and control sequences

A text that is shown on a terminal can steer the terminal: by control characters, and by
sequences that begin with an escape character.  `shown` is what is left of a text when both
are taken out.  Tabs and line ends stay.

* A sequence is an escape character with a final letter, or it is longer: a control
  sequence (`[`), a device control string (`P`), a command to the system (`]`), or another
  string (`X`, `^`, `_`).
* A control sequence goes on to its final letter.  A command ends with a bell.  A device
  control string, once its parameters are over, and another string end with the byte 0x9C,
  alone or in the encoding of a character.
* Another escape character breaks a sequence off and begins a new one; the cancel and the
  substitute character break it off.
* A tab or a line end behind an escape character or in a control sequence is shown, and so
  is the text that follows it.  The next control character leads back into the sequence,
  unless a character beyond ASCII came before it.

Nothing but `isShown` characters is left of a text, and a text of such characters is left as
it is.
-/

namespace Medallion.Text.Control

/-- The parts of sequences. -/
inductive Part where
  /-- Behind the escape character. -/
  | escape
  /-- Behind a blank or a mark that follows the escape character. -/
  | intermediate
  /-- In a control sequence. -/
  | sequence
  /-- At the start of a device control string. -/
  | deviceStart
  /-- In the parameters of a device control string. -/
  | deviceParameters
  /-- In the marks behind the parameters of a device control string. -/
  | deviceMarks
  /-- In a string that the byte 0x9C ends. -/
  | string
  /-- In a command to the system. -/
  | command
  deriving DecidableEq, Repr

/-- Where a reader stands. -/
inductive Place where
  | text
  | inside (part : Part)
  /-- In text that interrupts a sequence. -/
  | interrupting (part : Part)
  deriving DecidableEq, Repr

/-- The character that begins a sequence. -/
def escapeCharacter : Char := '\x1B'

/-- Whether a character breaks a sequence off. -/
def cancels (c : Char) : Bool := c = '\x18' || c = '\x1A'

/-- Whether a character is a tab or ends a line or page. -/
def isLayout (c : Char) : Bool := c = '\t' || c = '\n' || c = '\x0C' || c = '\r'

/-- Whether a character of a text is shown. -/
def isShown (c : Char) : Bool := isLayout c || (' ' ≤ c && c ≠ '\x7F')

/-- Whether a character is a blank or a mark that can stand in front of a final letter. -/
def isMark (c : Char) : Bool := ' ' ≤ c && c ≤ '/'

/-- Whether a character can stand in the parameters of a sequence. -/
def isParameter (c : Char) : Bool := '0' ≤ c && c ≤ ';'

/-- Whether a character marks parameters of a private kind. -/
def isPrivate (c : Char) : Bool := '<' ≤ c && c ≤ '?'

/-- Whether a character ends a control sequence. -/
def isFinal (c : Char) : Bool := '@' ≤ c && c ≤ '~'

/-- Whether the encoding of a character has the byte that ends a string. -/
def endsString (c : Char) : Bool := (String.utf8EncodeChar c).contains 0x9C

namespace Part

/-- Whether tabs and line ends are shown in this part. -/
def showsLayout : Part → Bool
  | escape | intermediate | sequence => true
  | _ => false

/-- Where a character of a sequence leads. -/
def next (part : Part) (c : Char) : Place :=
  match part with
  | escape =>
    if isMark c then .inside intermediate
    else if c = '[' then .inside sequence
    else if c = ']' then .inside command
    else if c = 'P' then .inside deviceStart
    else if c = 'X' || c = '^' || c = '_' then .inside string
    else if '0' ≤ c && c ≤ '~' then .text
    else .inside escape
  | intermediate => if '0' ≤ c && c ≤ '~' then .text else .inside intermediate
  | sequence => if isFinal c then .text else .inside sequence
  | deviceStart =>
    if isMark c then .inside deviceMarks
    else if isParameter c || isPrivate c then .inside deviceParameters
    else if isFinal c then .inside string
    else .inside deviceStart
  | deviceParameters =>
    if isMark c then .inside deviceMarks
    else if isPrivate c || isFinal c then .inside string
    else .inside deviceParameters
  | deviceMarks =>
    if isParameter c || isPrivate c || isFinal c then .inside string else .inside deviceMarks
  | string => if endsString c then .text else .inside string
  | command => if c = '\x07' then .text else .inside command

end Part

/-- Reads a character; the answer also says whether it is shown. -/
def Place.step (place : Place) (c : Char) : Place × Bool :=
  if c = escapeCharacter then (.inside .escape, false)
  else if cancels c then (.text, false)
  else
    match place with
    | .text => (.text, isShown c)
    | .inside part =>
      if part.showsLayout && isLayout c then (.interrupting part, true)
      else (part.next c, false)
    | .interrupting part =>
      if !isShown c then (.inside part, false)
      else (if c.toNat < 128 then .interrupting part else .text, true)

/-- The characters that are shown from a place on. -/
def shownFrom : Place → List Char → List Char
  | _, [] => []
  | place, c :: cs =>
    let (place, shows) := place.step c
    if shows then c :: shownFrom place cs else shownFrom place cs

theorem isShown_of_isLayout {c : Char} (h : isLayout c = true) : isShown c = true := by
  simp [isShown, h]

/-- A character that a step shows can be shown. -/
theorem isShown_of_step {place : Place} {c : Char} (h : (place.step c).2 = true) :
    isShown c = true := by
  unfold Place.step at h
  split at h
  · simp at h
  · split at h
    · simp at h
    · cases place with
      | text => exact h
      | inside part =>
        by_cases hl : (part.showsLayout && isLayout c) = true
        · exact isShown_of_isLayout (by simp_all)
        · simp [hl] at h
      | interrupting part =>
        by_cases hs : isShown c = true
        · exact hs
        · simp [hs] at h

/-- Only characters that can be shown are left. -/
theorem isShown_of_mem_shownFrom {place : Place} {cs : List Char} {c : Char}
    (h : c ∈ shownFrom place cs) : isShown c = true := by
  induction cs generalizing place with
  | nil => simp [shownFrom] at h
  | cons d cs ih =>
    simp only [shownFrom] at h
    split at h
    · rename_i hd
      rcases List.mem_cons.1 h with rfl | h
      · exact isShown_of_step hd
      · exact ih h
    · exact ih h

/-- A step in text shows what can be shown, and stays in the text. -/
theorem step_text_of_isShown {c : Char} (h : isShown c = true) :
    Place.text.step c = (.text, true) := by
  have he : c ≠ escapeCharacter := by rintro rfl; revert h; decide
  have hc : cancels c = false := by
    cases hc : cancels c with
    | false => rfl
    | true =>
      simp only [cancels, Bool.or_eq_true, decide_eq_true_eq] at hc
      rcases hc with rfl | rfl <;> revert h <;> decide
  simp [Place.step, he, hc, h]

/-- A text of characters that can be shown is left as it is. -/
theorem shownFrom_text_of_forall {cs : List Char} (h : ∀ c ∈ cs, isShown c = true) :
    shownFrom .text cs = cs := by
  induction cs with
  | nil => rfl
  | cons c cs ih =>
    simp only [List.mem_cons, forall_eq_or_imp] at h
    simp [shownFrom, step_text_of_isShown h.1, ih h.2]

/-- What a text shows. -/
def shown (s : String) : String := String.ofList (shownFrom .text s.toList)

end Medallion.Text.Control
