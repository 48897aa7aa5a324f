import TidyTable.Failure
import TidyTable.Sheet.Basic
import TidyTable.Table.Basic

/-!
# Tables in sheets

A table is read from the first sheet of a workbook: the first row that is used holds the names of
the columns. It is written to a workbook with one sheet, below a row of names and behind a column
that counts the rows under a blank name.

Writing keeps less than a table has. An empty text and a number that is none are not written; an
integer becomes a double; markup and records become texts; an infinite number becomes a text, since
a sheet has none.
-/

namespace TidyTable

namespace Sheet

/-! ## Reading -/

/-- Doubles from here on are written in full as names of columns. -/
def headerIntegerLimit : Nat := Nat.pow 10 15

/-- The name that a value makes of a column; a whole number has no decimal places. -/
def header (v : Scalar) : String :=
  match v with
  | .float x =>
    match Decimal.whole? x with
    | some n => if n.natAbs < headerIntegerLimit then Decimal.integerText n else v.render
    | none => v.render
  | v => v.render

/-- The values of a sheet, unless some entry cannot be read. -/
def values? (s : Sheet) : Option Grid := s.cells.mapM (·.mapM Entry.read?)

/-- The table of a rectangle of values. Its rows are as long as its first one, and there are as many
names as values in the first row, so no row has more cells than there are columns and none has to
be filled up. -/
def tableOf (settings : Settings) (g : Grid) : Table :=
  match g with
  | [] => {}
  | names :: rows =>
    let t := Table.ofHeaders (names.map header)
    let nested := t.columnIndex? settings.nestedColumn
    { t with
      rows := rows.map fun row =>
        row.mapIdx fun i v => Cell.ofScalar (nested == some i) v }

/-! ## Writing -/

/-- The most rows and columns of a sheet. -/
def maxRows : Nat := 1048576

def maxColumns : Nat := 16384

/-- The longest text of an entry. -/
def maxText : Nat := 32767

/-- Whether a sheet can have a name. -/
def isName (s : String) : Bool :=
  let quote := some '\x27'
  !s.isEmpty && s.length ≤ Settings.sheetNameLimit
    && !s.toList.any Settings.sheetNameForbidden.contains
    && s.toList.head? != quote && s.toList.getLast? != quote

/-- A text as it is written: an empty one is not. -/
def textEntry? (s : String) : Option Scalar :=
  if maxText < s.length then none else some (if s.isEmpty then .empty else .text s)

/-- The text of an infinite number. -/
def infinite (negative : Bool) (letters : String) : Scalar :=
  .text (if negative then "-" ++ letters else letters)

/-- A number as it is written. -/
def number (x : Float) : Scalar :=
  match Decimal.Binary.ofFloat x with
  | .nan => .empty
  | .infinite negative => infinite negative "inf"
  | .finite .. => .float x

/-- A serial number as it is written. -/
def serial (x : Float) : Scalar :=
  match Decimal.Binary.ofFloat x with
  | .nan => .text "NAN"
  | .infinite negative => infinite negative "INF"
  | .finite .. => .dateTime x

/-- A cell as it is written, unless its text is too long. -/
def entry? : Cell → Option Scalar
  | .plain (.text s) | .markup s => textEntry? s
  | .plain (.int i) => some (.float (Decimal.nearest i.toInt))
  | .plain (.float x) => some (number x)
  | .plain (.dateTime x) => some (serial x)
  | .plain v => some v
  | .record fields => textEntry? fields.text

/-- A number of a row. -/
def ordinal (n : Nat) : Scalar := .float (Decimal.nearest n)

/-- The values that a table is written as, unless some text is too long. -/
def grid? (t : Table) : Option Grid := do
  let names ← t.columns.mapM textEntry?
  let rows ← t.rows.zipIdx.mapM fun (row, n) => do
    let entries ← row.mapM entry?
    some (ordinal n :: entries)
  some ((.empty :: names) :: rows)

end Sheet

namespace Table

/-- Reads a table from the first sheet of a workbook. -/
def ofWorkbook (settings : Settings) (w : Workbook) : Except Failure Table :=
  match w.sheets with
  | [] => .error .noSheet
  | sheet :: _ =>
    match sheet.values? with
    | none => .error .unreadableSheet
    | some g =>
      -- the place of the nested column was found while the row index was still there
      let t := Sheet.tableOf settings g.used
      .ok (if settings.detectIndexColumn then t.dropIndex else t)

/-- Writes a table to a workbook with one sheet. -/
def toWorkbook (settings : Settings) (t : Table) : Except Failure Workbook :=
  if Sheet.maxRows < t.rows.length + 1 then
    .error (.tooManyRows t.rows.length (Sheet.maxRows - 1))
  else if Sheet.maxColumns < t.columns.length + 1 then
    .error (.tooManyColumns t.columns.length (Sheet.maxColumns - 1))
  else if !Sheet.isName settings.sheetName then .error .unwritableSheet
  else
    match Sheet.grid? t with
    | none => .error .unwritableSheet
    | some g =>
      .ok { sheets := [{ name := settings.sheetName, cells := g.fromCorner.map (·.map .value) }] }

end Table

end TidyTable
