import TidyTable.Text.Utf8

/-!
# Records of a text table

A text table is a sequence of records, each with at least one field. Reading one is a fold of
`Reader.step` over its bytes, so that what is read from one text after another is read in two
steps, and the state between them says what the first left open. The bytes are taken apart before
anyone asks whether they are text: the marks that the reader looks for are single bytes, and the
delimiter is whatever byte the settings give.

Two rules differ from the simplest reader. A quote is special only where a field begins; behind the
quote that closes a field the rest of the field is taken as it is. And a carriage return ends a
record as a line feed does, with empty lines skipped, so that a pair of the two ends one record and
not two.
-/

namespace TidyTable.Csv

open Text (Bytes)

/-- How far a text is read. -/
structure Position where
  /-- How many records are complete. -/
  record : Nat := 0
  /-- The line of the next byte. -/
  line : Nat := 1
  /-- How many bytes are read. -/
  byte : Nat := 0
deriving DecidableEq, Repr

/-- One record, and how far the text was read when the record before it was complete. -/
structure Record where
  position : Position
  fields : List Bytes
deriving DecidableEq, Repr

/-- Where in a record the next byte stands. -/
inductive Place where
  /-- Between records. -/
  | between
  /-- Where a field begins. -/
  | start
  /-- In a field without quotes, or behind the closing quote of one. -/
  | bare
  /-- Between the quotes of a field. -/
  | quoted
  /-- Behind a quote that closes a field unless another one follows. -/
  | closed
deriving DecidableEq, Repr

/-- What was read so far. The lists have the newest element first. -/
structure Reader where
  place : Place := .between
  now : Position := {}
  /-- How far the text was read when the last record was complete. -/
  began : Position := {}
  field : Bytes := []
  fields : List Bytes := []
  records : List Record := []
deriving DecidableEq, Repr

/-- The byte that fields may be enclosed in. -/
def quote : UInt8 := 0x22

def lineFeed : UInt8 := 0x0a

def carriageReturn : UInt8 := 0x0d

/-- Whether a byte ends a record outside quotes. -/
def isTerminator (b : UInt8) : Bool := b == lineFeed || b == carriageReturn

/-- Goes on behind a byte. A line feed counts wherever it stands, also between quotes. -/
def Position.advance (p : Position) (b : UInt8) : Position :=
  { p with line := if b = lineFeed then p.line + 1 else p.line, byte := p.byte + 1 }

namespace Reader

/-- Takes a byte into the field. -/
def push (r : Reader) (place : Place) (b : UInt8) : Reader :=
  { r with place := place, field := b :: r.field }

/-- Completes the field. -/
def endField (r : Reader) : Reader :=
  { r with place := .start, field := [], fields := r.field.reverse :: r.fields }

/-- Completes the field and with it the record. -/
def endRecord (r : Reader) : Reader :=
  let now := { r.now with record := r.now.record + 1 }
  let fields := r.field.reverse :: r.fields
  { place := .between, now, began := now, field := [], fields := []
    records := ⟨r.began, fields.reverse⟩ :: r.records }

/-- A byte that stands outside quotes in a field that has begun. -/
def stepBare (delimiter : UInt8) (r : Reader) (b : UInt8) : Reader :=
  if b = delimiter then r.endField
  else if isTerminator b then r.endRecord
  else r.push .bare b

/-- The first byte of a field. -/
def stepStart (delimiter : UInt8) (r : Reader) (b : UInt8) : Reader :=
  if b = quote then { r with place := .quoted } else r.stepBare delimiter b

/-- Reads one byte. -/
def step (delimiter : UInt8) (r : Reader) (b : UInt8) : Reader :=
  let r := { r with now := r.now.advance b }
  match r.place with
  | .between => if isTerminator b then r else r.stepStart delimiter b
  | .start => r.stepStart delimiter b
  | .bare => r.stepBare delimiter b
  | .quoted => if b = quote then { r with place := .closed } else r.push .quoted b
  | .closed => if b = quote then r.push .quoted b else r.stepBare delimiter b

/-- Completes a record that the end of the text leaves open. -/
def finish (r : Reader) : List Record :=
  (if r.place = .between then r else r.endRecord).records.reverse

end Reader

/-- The byte order mark in UTF-8. -/
def mark : Bytes := [0xef, 0xbb, 0xbf]

/-- The records of a text behind a byte order mark. -/
def records (delimiter : UInt8) (bs : Bytes) : List Record :=
  let skipped := if mark.isPrefixOf bs then mark.length else 0
  ((bs.drop skipped).foldl (Reader.step delimiter) { now := { byte := skipped } }).finish

end TidyTable.Csv
