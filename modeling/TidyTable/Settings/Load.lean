import TidyTable.Failure
import TidyTable.Settings.Environment
import TidyTable.Settings.LogFilter
import TidyTable.Toml.Document

/-!
# Loading settings

Settings have three layers: the defaults, a document, and the environment on top. A document that
cannot be read makes loading fail, whatever the environment says; a value of the wrong type only if
nothing above hides it. What is loaded is checked, and then its log filter is.
-/

namespace TidyTable.Settings

/-- The file that holds the document, unless another one is named. -/
def documentName : String := "scribe_export.toml"

/-- The value that an item of a document gives a field. -/
def Value.ofItem : Toml.Item → Value
  | .text s => .text s
  | .flag b => .flag b
  | _ => .other

/-- What a document says. -/
def Layer.ofFields (fs : Toml.Fields) : Layer := fs.map fun (name, item) => (name, .ofItem item)

/-- What the text of a document says, if it is one; no document says nothing. -/
def Layer.ofDocument? : Option String → Option Layer
  | none => some []
  | some text => (Toml.parse? text).map Layer.ofFields

/-- The settings that a document and an environment give. -/
def load (document : Option String) (environment : List (String × String)) :
    Except Failure Settings :=
  let loaded := (Layer.ofDocument? document).bind fun layer =>
    ofLayers? [layer, Layer.ofEnvironment environment]
  match loaded with
  | none => .error .unloadableSettings
  | some s =>
    match s.fault? with
    | some fault => .error (.badLoadedSettings fault)
    | none => if isLogFilter s.logFilter then .ok s else .error .badLogFilter

end TidyTable.Settings
