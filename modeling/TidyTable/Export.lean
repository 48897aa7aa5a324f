import TidyTable.Csv.Codec
import TidyTable.Processor
import TidyTable.Sheet.Codec
import TidyTable.Text.Encoding

/-!
# Exports

An export is a table on its way: text, bytes of text, or a workbook. Its format says which of them
it should be. Processing reads the table, cleans it up, and writes it in the format and in the form
that it came in. An export of text that is only a line feed has no table, and stays as it is.
-/

namespace TidyTable

/-- The formats of an export. -/
inductive Format where
  | csv
  | spreadsheet
deriving DecidableEq, Repr

namespace Format

/-- The format that a flag stands for. -/
def ofCsvFlag (csv : Bool) : Format := if csv then .csv else .spreadsheet

/-- How a format is shown. -/
def label : Format → String
  | .csv => "CSV"
  | .spreadsheet => "Spreadsheet"

/-- The name that a format is stored under. -/
def name : Format → String
  | .csv => "Csv"
  | .spreadsheet => "Spreadsheet"

/-- The format that is stored under a name. -/
def ofName? (s : String) : Option Format := [csv, spreadsheet].find? (·.name == s)

end Format

/-- What an export holds. -/
inductive Payload where
  | text (content : String)
  | bytes (content : ByteArray)
  | workbook (content : Workbook)

namespace Payload

/-- An export without a table. -/
def emptyCsv : String := "\n"

/-- Whether an export is text. -/
def isText : Payload → Bool
  | .text _ => true
  | _ => false

/-- The bytes of an export of text. -/
def bytes? : Payload → Option ByteArray
  | .text s => some s.toUTF8
  | .bytes b => some b
  | .workbook _ => none

end Payload

namespace Processor

/-- Processes the text of a table. -/
def processCsv (p : Processor) (s : String) : Except Failure String := do
  let t ← Table.ofCsv p.settings s
  (p.processTable t).toCsv p.settings

/-- Processes a workbook. -/
def processWorkbook (p : Processor) (w : Workbook) : Except Failure Workbook := do
  let t ← Table.ofWorkbook p.settings w
  (p.processTable t).toWorkbook p.settings

/-- Processes an export. Bytes are no workbook that could be read, and a workbook is no text: it has
no columns to read. -/
def process (p : Processor) (format : Format) (payload : Payload) : Except Failure Payload :=
  match format, payload with
  | .csv, .text s =>
    if s == Payload.emptyCsv then .ok (.text s) else (p.processCsv s).map .text
  | .csv, .bytes b =>
    if b == Payload.emptyCsv.toUTF8 then .ok (.bytes b)
    else (p.processCsv (Text.decode b)).map fun s => .bytes s.toUTF8
  | .csv, .workbook _ => .error .noColumns
  | .spreadsheet, .text _ => .error .textWorkbook
  | .spreadsheet, .bytes _ => .error .notWorkbook
  | .spreadsheet, .workbook w => (p.processWorkbook w).map .workbook

/-- Processes an export so many times, each time what came out of it before, up to a failure. -/
def passes (p : Processor) (format : Format) (payload : Payload) :
    Nat → List (Except Failure Payload)
  | 0 => []
  | n + 1 =>
    match p.process format payload with
    | .ok out => .ok out :: p.passes format out n
    | .error f => [.error f]

end Processor

end TidyTable
