import TidyTable.Text.Blank
import TidyTable.Text.Quoted

/-!
# Settings

What can be chosen about the clean-up of a table: the name of the nested column, the element that
carries a parameter and the attributes it is recognized by, and the form of the output. Settings
are checked as a whole before they are used; `Settings.fault?` gives the first thing that is wrong
in the order of the fields.
-/

namespace TidyTable

/-- The choices that a clean-up depends on. -/
structure Settings where
  /-- The column whose cells may hold records. -/
  nestedColumn : String := "More"
  /-- Selects the element that may carry a parameter. -/
  markerTag : String := "div"
  /-- The attribute that says what an element carries. -/
  markerTypeAttr : String := "data-info-type"
  /-- The value of that attribute on an element that carries a parameter. -/
  markerTypeValue : String := "show_params"
  /-- The attribute with the parameter. -/
  markerValueAttr : String := "data-info"
  /-- Stands between the keys of a path. -/
  keySeparator : String := "."
  /-- Stands between the fields of a record of a text table. -/
  csvDelimiter : Char := ','
  /-- Ends a record of a text table. -/
  lineTerminator : String := "\n"
  /-- The name of the sheet that is written. -/
  sheetName : String := "Sheet1"
  /-- Whether a row index in the input is recognized and dropped. -/
  detectIndexColumn : Bool := true
  /-- Which log messages are shown. -/
  logFilter : String := "info"
deriving DecidableEq, Repr

namespace Settings

/-- Characters that the name of a sheet must not have. -/
def sheetNameForbidden : List Char := ['[', ']', ':', '*', '?', '/', '\\']

/-- The longest name of a sheet. -/
def sheetNameLimit : Nat := 31

/-- The byte that stands between fields: the low eight bits of the delimiter. -/
def delimiterByte (s : Settings) : UInt8 := s.csvDelimiter.toNat.toUInt8

/-- Whether records end in a carriage return and a line feed. -/
def usesCrlf (s : Settings) : Bool := s.lineTerminator == "\r\n"

/-- What can be wrong with settings. -/
inductive Fault where
  | noNestedColumn
  | noMarkerTag
  | noMarkerAttribute
  | noKeySeparator
  | badDelimiter (found : Char)
  | badTerminator (found : String)
  | sheetNameLength
  | sheetNameCharacter
deriving DecidableEq, Repr

/-- How a fault is worded. -/
def Fault.message : Fault → String
  | .noNestedColumn => "nested_column must not be empty"
  | .noMarkerTag => "marker_tag must not be empty"
  | .noMarkerAttribute => "marker attribute names must not be empty"
  | .noKeySeparator => "key_separator must not be empty"
  | .badDelimiter found =>
    "csv_delimiter must be an ASCII character other than a quote or newline, got "
      ++ Text.quoteChar found
  | .badTerminator found =>
    "line_terminator must be \"\\n\" or \"\\r\\n\", got " ++ Text.quoteString found
  | .sheetNameLength => "sheet_name must be between 1 and 31 characters"
  | .sheetNameCharacter =>
    "sheet_name must not contain any of ["
      ++ ", ".intercalate (sheetNameForbidden.map Text.quoteChar) ++ "]"

/-- Whether fields may be separated by this character. -/
def isDelimiter (c : Char) : Bool :=
  c.toNat < 0x80 && c != '\x22' && c != '\n' && c != '\r'

/-- The first thing that is wrong, if anything is. -/
def fault? (s : Settings) : Option Fault :=
  if s.nestedColumn.isEmpty then some .noNestedColumn
  else if (Text.trim s.markerTag.toList).isEmpty then some .noMarkerTag
  else if s.markerTypeAttr.isEmpty || s.markerValueAttr.isEmpty then some .noMarkerAttribute
  else if s.keySeparator.isEmpty then some .noKeySeparator
  else if !isDelimiter s.csvDelimiter then some (.badDelimiter s.csvDelimiter)
  else if s.lineTerminator != "\n" && s.lineTerminator != "\r\n" then
    some (.badTerminator s.lineTerminator)
  else if s.sheetName.length == 0 || sheetNameLimit < s.sheetName.length then
    some .sheetNameLength
  else if s.sheetName.toList.any sheetNameForbidden.contains then some .sheetNameCharacter
  else none

end Settings

end TidyTable
