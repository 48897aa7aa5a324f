import TidyTable.Settings.Basic

/-!
# Layers of settings

Settings are given in layers, each a list of names with values; a value in a later layer hides the
values of the same name below it. Only what is not hidden must have the type of its field. A name
that is no field is ignored.
-/

namespace TidyTable.Settings

/-- A value of a layer, as far as a field can tell: nothing takes anything else than a text or a
truth value. -/
inductive Value where
  | text (value : String)
  | flag (value : Bool)
  | other
deriving DecidableEq, Repr

namespace Value

/-- The text of a value that is one. -/
def text? : Value → Option String
  | .text s => some s
  | _ => none

/-- The truth value of a value that is one. -/
def flag? : Value → Option Bool
  | .flag b => some b
  | _ => none

/-- The only character of a value that is a text of one character. -/
def char? : Value → Option Char
  | .text s =>
    match s.toList with
    | [c] => some c
    | _ => none
  | _ => none

end Value

/-- Names with values; of two values for one name the later one counts. -/
abbrev Layer := List (String × Value)

/-- Sets a field by its name, unless the value has the wrong type. -/
def assign? (s : Settings) (name : String) (value : Value) : Option Settings :=
  match name with
  | "nested_column" => value.text?.map fun v => { s with nestedColumn := v }
  | "marker_tag" => value.text?.map fun v => { s with markerTag := v }
  | "marker_type_attr" => value.text?.map fun v => { s with markerTypeAttr := v }
  | "marker_type_value" => value.text?.map fun v => { s with markerTypeValue := v }
  | "marker_value_attr" => value.text?.map fun v => { s with markerValueAttr := v }
  | "key_separator" => value.text?.map fun v => { s with keySeparator := v }
  | "csv_delimiter" => value.char?.map fun v => { s with csvDelimiter := v }
  | "line_terminator" => value.text?.map fun v => { s with lineTerminator := v }
  | "sheet_name" => value.text?.map fun v => { s with sheetName := v }
  | "detect_index_column" => value.flag?.map fun v => { s with detectIndexColumn := v }
  | "log_filter" => value.text?.map fun v => { s with logFilter := v }
  | _ => some s

/-- The names of the fields, in the order in which they are declared. -/
def fieldNames : List String :=
  ["nested_column", "marker_tag", "marker_type_attr", "marker_type_value", "marker_value_attr",
    "key_separator", "csv_delimiter", "line_terminator", "sheet_name", "detect_index_column",
    "log_filter"]

/-- The value of a name in a layer. -/
def Layer.value? (layer : Layer) (name : String) : Option Value := layer.reverse.lookup name

/-- The settings that layers give, the first one at the bottom. -/
def ofLayers? (layers : List Layer) : Option Settings :=
  fieldNames.foldlM
    (fun s name =>
      match Layer.value? layers.flatten name with
      | some value => s.assign? name value
      | none => some s)
    ({} : Settings)

end TidyTable.Settings
