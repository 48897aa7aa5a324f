import TidyTable.Csv.Record
import TidyTable.Decimal.Natural
import TidyTable.Settings.Basic

/-!
# Failures

Why an input is refused. Each constructor of `Failure` is one cause, with the values that its
message shows. A failure is reported as a kind, which says what the program was doing, and a detail.
-/

namespace TidyTable

/-- What the program was doing when it failed. -/
inductive FailureKind where
  | parse
  | serialize
  | validation
  | config
  | io
deriving DecidableEq, Repr

/-- The words in front of a detail. -/
def FailureKind.label : FailureKind → String
  | .parse => "Parse error"
  | .serialize => "Serialize error"
  | .validation => "Validation error"
  | .config => "Config error"
  | .io => "IO error"

/-- A failure as it is shown. -/
structure Report where
  kind : FailureKind
  detail : String
deriving DecidableEq, Repr

/-- The whole message. -/
def Report.text (r : Report) : String := r.kind.label ++ ": " ++ r.detail

/-- Why an input is refused. -/
inductive Failure where
  /-- A text table has no record. -/
  | noColumns
  /-- A record of a text table has more fields than the header. -/
  | longRecord (expected line found : Nat)
  /-- A field of the header of a text table is no text. -/
  | brokenHeader (position : Csv.Position) (field sound : Nat)
  /-- A field of another record of a text table is no text. -/
  | brokenRow (position : Csv.Position) (field sound : Nat)
  /-- A row is longer or shorter than the header that was written. -/
  | unevenRow (row found expected : Nat)
  /-- The text table that was written is no text. -/
  | brokenOutput (fault : Text.Utf8Fault)
  /-- The bytes are not a workbook. -/
  | notWorkbook
  /-- A workbook has no sheet. -/
  | noSheet
  /-- The first sheet holds a cell that cannot be read. -/
  | unreadableSheet
  /-- A table has more rows than a sheet. -/
  | tooManyRows (found limit : Nat)
  /-- A table has more columns than a sheet. -/
  | tooManyColumns (found limit : Nat)
  /-- The name of the sheet or a text of the table cannot be written. -/
  | unwritableSheet
  /-- A workbook was passed as text. -/
  | textWorkbook
  /-- The settings are not valid. -/
  | badSettings (fault : Settings.Fault)
  /-- The selector of the marker element cannot be read. -/
  | badMarkerTag
  /-- The layers of the settings cannot be read. -/
  | unloadableSettings
  /-- The settings that were loaded are not valid. -/
  | badLoadedSettings (fault : Settings.Fault)
  /-- The log filter that was loaded cannot be read. -/
  | badLogFilter
deriving DecidableEq, Repr

namespace Failure

private def nat (n : Nat) : String := Decimal.naturalText n

/-- How a field that is no text is worded. -/
private def brokenField (position : Csv.Position) (field sound : Nat) : String :=
  "CSV parse error: record " ++ nat position.record ++ " (line " ++ nat position.line
    ++ ", field: " ++ nat field ++ ", byte: " ++ nat position.byte
    ++ "): invalid utf-8: invalid UTF-8 in field " ++ nat field ++ " near byte index " ++ nat sound

/-- How bytes that are no text are worded. -/
private def brokenBytes (fault : Text.Utf8Fault) : String :=
  match fault.broken? with
  | some n => "invalid utf-8 sequence of " ++ nat n ++ " bytes from index " ++ nat fault.sound
  | none => "incomplete utf-8 byte sequence from index " ++ nat fault.sound

/-- How a failure is reported. -/
def report : Failure → Report
  | .noColumns => ⟨.parse, "No columns to parse from CSV input"⟩
  | .longRecord expected line found =>
    ⟨.parse, "Expected " ++ nat expected ++ " fields in line " ++ nat line ++ ", saw " ++ nat found⟩
  | .brokenHeader position field sound =>
    ⟨.parse, "Failed to read CSV headers: " ++ brokenField position field sound⟩
  | .brokenRow position field sound =>
    ⟨.parse, "Failed to parse CSV row: " ++ brokenField position field sound⟩
  | .unevenRow row found expected =>
    ⟨.serialize, "Failed to write CSV row " ++ nat row ++ ": CSV error: found record with "
      ++ nat found ++ " fields, but the previous record has " ++ nat expected ++ " fields"⟩
  | .brokenOutput fault => ⟨.serialize, "CSV output is not UTF-8: " ++ brokenBytes fault⟩
  | .notWorkbook => ⟨.parse, "Failed to open Excel workbook: Cannot detect file format"⟩
  | .noSheet => ⟨.parse, "No worksheet found"⟩
  | .unreadableSheet => ⟨.parse, "Failed to read Excel range"⟩
  | .tooManyRows found limit =>
    ⟨.serialize, nat found ++ " rows exceed the worksheet limit of " ++ nat limit⟩
  | .tooManyColumns found limit =>
    ⟨.serialize, nat found ++ " columns exceed the worksheet limit of " ++ nat limit⟩
  | .unwritableSheet => ⟨.serialize, "Failed to write Excel sheet"⟩
  | .textWorkbook => ⟨.validation, "Spreadsheet exports must be passed as binary data"⟩
  | .badSettings fault => ⟨.validation, "Invalid post-processing config: " ++ fault.message⟩
  | .badMarkerTag => ⟨.validation, "Invalid marker_tag"⟩
  | .unloadableSettings => ⟨.config, "Failed to load config from"⟩
  | .badLoadedSettings fault => ⟨.config, "Invalid post-processing config: " ++ fault.message⟩
  | .badLogFilter => ⟨.config, "Invalid log_filter"⟩

end Failure

end TidyTable
