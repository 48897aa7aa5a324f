import TidyTable.Csv.Record
import TidyTable.Csv.Writer
import TidyTable.Failure
import TidyTable.Table.Basic

/-!
# Tables as text

The first record of a text names the columns, the others are the rows. A record that is too short is
filled up; one that is too long is refused, with the line on which it was found. A table is written
with the row index in front, under a blank name, and such an index is dropped when it is read.

Fields are read as UTF-8 record by record, and what is written must be UTF-8 as a whole. Neither can
fail for a delimiter that settings may have, and no row of a table can be longer or shorter than its
header; all of it is checked nevertheless.
-/

namespace TidyTable

namespace Csv

open Text (Bytes)

/-- The byte order mark, which a text may start with. -/
def byteOrderMark : Char := '\ufeff'

/-- Drops a byte order mark. -/
def dropMark (s : String) : String :=
  match s.toList with
  | c :: cs => if c = byteOrderMark then String.ofList cs else s
  | [] => s

/-- The end of a record. -/
def terminator (settings : Settings) : Bytes :=
  if settings.usesCrlf then [carriageReturn, lineFeed] else [lineFeed]

/-- The records of a text behind up to two byte order marks: one that the text was given and one
that belongs to the encoding. -/
def recordsOf (settings : Settings) (content : String) : List Record :=
  records settings.delimiterByte (Text.utf8 (dropMark content))

/-- A field that is no text: its place in the record, and how many of its bytes are sound. -/
structure BrokenField where
  field : Nat
  sound : Nat
deriving DecidableEq, Repr

/-- Reads the fields of a record as text. -/
def texts (fields : List Bytes) : Except BrokenField (List String) :=
  fields.zipIdx.mapM fun (field, i) =>
    (Text.readUtf8 field).mapError fun fault => ⟨i, fault.sound⟩

/-- The cells of a record. -/
def cells (nestedIndex : Option Nat) (fields : List String) : Row :=
  fields.zipIdx.map fun (field, i) => Cell.ofText (some i == nestedIndex) field

/-- The row for a record under a header of the given width. -/
def row (width : Nat) (nestedIndex : Option Nat) (record : Record) : Except Failure Row := do
  let fields ← (texts record.fields).mapError fun broken =>
    .brokenRow record.position broken.field broken.sound
  match Table.fit? width (cells nestedIndex fields) with
  | some row => .ok row
  | none => .error (.longRecord width record.position.line fields.length)

/-- The table that records describe, with a row index still in it. -/
def tableOf (settings : Settings) : List Record → Except Failure Table
  | [] => .error .noColumns
  | header :: rest => do
    let raws ← (texts header.fields).mapError fun broken =>
      .brokenHeader header.position broken.field broken.sound
    let table := Table.ofHeaders raws
    let nestedIndex := table.columnIndex? settings.nestedColumn
    let rows ← rest.mapM (row table.columns.length nestedIndex)
    .ok { table with rows := rows }

end Csv

namespace Table

/-- Reads a table from text. -/
def ofCsv (settings : Settings) (content : String) : Except Failure Table := do
  let table ← Csv.tableOf settings (Csv.recordsOf settings content)
  .ok (if settings.detectIndexColumn then table.dropIndex else table)

/-- The record of a row: its place and the texts of its cells. It must be as long as the header. -/
def csvRow (width : Nat) (row : Row) (n : Nat) : Except Failure (List String) :=
  if row.length = width then .ok (Decimal.naturalText n :: row.map Cell.render)
  else .error (.unevenRow n (row.length + 1) (width + 1))

/-- The records that a table is written as: the header and the rows, with the row index in front. -/
def csvRecords (t : Table) : Except Failure (List (List String)) := do
  let rows ← t.rows.zipIdx.mapM fun (row, n) => csvRow t.columns.length row n
  .ok (("" :: t.columns) :: rows)

/-- Writes a table as text. -/
def toCsv (settings : Settings) (t : Table) : Except Failure String := do
  let records ← t.csvRecords
  let bytes := Csv.writeRecords settings.delimiterByte (Csv.terminator settings)
    (records.map (·.map Text.utf8))
  (Text.readUtf8 bytes).mapError .brokenOutput

end Table

end TidyTable
