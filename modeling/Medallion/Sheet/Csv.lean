import Medallion.Sheet.Cell

/-!
# Comma-separated sheets

The reader works on bytes, because each field is decoded on its own.

* Fields are parted by commas, records by a line feed, a carriage return, or both.  Empty
  lines are passed over.
* A quote opens a quoted field only as the first byte of the field.  Inside, a comma or a
  line end is data, and two quotes stand for one.  What follows the closing quote belongs
  to the field, and quotes in it are data.
* A quoted field that is not closed runs to the end of the sheet.
* A byte order mark at the start is dropped.

A sheet is no table when a field is not valid UTF-8.  Records with blank fields only are
left out of the table.
-/

namespace Medallion.Csv

/-- The bytes of a field. -/
abbrev Field := List UInt8

/-- Where the reader stands. -/
inductive Mode where
  /-- Before the first byte of a record. -/
  | recordStart
  /-- Behind a comma. -/
  | fieldStart
  /-- In a field, outside quotes. -/
  | plain
  /-- Inside quotes. -/
  | quoted
  /-- Behind a quote that closes the field unless another one follows. -/
  | quoteSeen
  deriving DecidableEq

/-- What was read so far.  Records, fields and bytes are kept with the last one first. -/
structure State where
  records : List (List Field)
  record : List Field
  field : Field
  mode : Mode
  deriving DecidableEq

def comma : UInt8 := 0x2C

def quote : UInt8 := 0x22

/-- Whether a byte ends a line. -/
def isLineEnd (b : UInt8) : Bool := b == 0x0A || b == 0x0D

namespace State

/-- The reader at the start of a sheet. -/
def start : State := ⟨[], [], [], .recordStart⟩

/-- Adds a byte to the field. -/
def push (s : State) (b : UInt8) (mode : Mode) : State :=
  { s with field := b :: s.field, mode := mode }

/-- Ends the field. -/
def endField (s : State) : State :=
  { s with record := s.field.reverse :: s.record, field := [], mode := .fieldStart }

/-- Ends the record. -/
def endRecord (s : State) : State :=
  ⟨(s.field.reverse :: s.record).reverse :: s.records, [], [], .recordStart⟩

/-- Reads a byte outside quotes. -/
def outside (s : State) (b : UInt8) : State :=
  if b = comma then s.endField
  else if isLineEnd b then s.endRecord
  else s.push b .plain

/-- Reads a byte at the start of a field. -/
def opening (s : State) (b : UInt8) : State :=
  if b = quote then { s with mode := .quoted } else s.outside b

/-- Reads a byte. -/
def step (s : State) (b : UInt8) : State :=
  match s.mode with
  | .recordStart => if isLineEnd b then s else s.opening b
  | .fieldStart => s.opening b
  | .plain => s.outside b
  | .quoted => if b = quote then { s with mode := .quoteSeen } else s.push b .quoted
  | .quoteSeen => if b = quote then s.push b .quoted else s.outside b

/-- The records at the end of the sheet.  A record that has begun is ended by it. -/
def finish (s : State) : List (List Field) :=
  (if s.mode = .recordStart then s.records else s.endRecord.records).reverse

end State

/-- Drops a byte order mark. -/
def dropMark : List UInt8 → List UInt8
  | 0xEF :: 0xBB :: 0xBF :: bs => bs
  | bs => bs

/-- The records of a sheet, the one with the headers first. -/
def records (bytes : List UInt8) : List (List Field) :=
  ((dropMark bytes).foldl State.step .start).finish

/-- The text of a field. -/
def decode? (field : Field) : Option String := String.fromUTF8? ⟨field.toArray⟩

/-- The cell of a field's text. -/
def cell (s : String) : Cell := if s = "" then .empty else .text s

/-- The table that a sheet holds. -/
def table? (bytes : List UInt8) : Option Table := do
  match ← (records bytes).mapM fun record => record.mapM decode? with
  | [] => some ⟨[], []⟩
  | headers :: rest =>
    some ⟨headers, (rest.map fun record => record.map cell).filter (!Cell.isBlankRecord ·)⟩

end Medallion.Csv
