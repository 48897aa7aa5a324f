import TidyTable.Processor
import TidyTable.Settings.Load

/-!
# Layers, field by field

Layers are merged by name and then read one field after the other. Field by field this means that
the environment is asked first, then the document, and then the default is taken. `Field` makes the
fields something to speak about: each can be read and set on its own, and each knows its name and
how a layer gives its value.

Only what is not hidden is read. So a layer is described by what it says of the fields that no layer
above it sets (`Layer.Says`), and nothing is asked of the others.
-/

namespace TidyTable.Settings

/-! ## Fields -/

/-- The fields of settings. -/
inductive Field where
  | nestedColumn
  | markerTag
  | markerTypeAttr
  | markerTypeValue
  | markerValueAttr
  | keySeparator
  | csvDelimiter
  | lineTerminator
  | sheetName
  | detectIndexColumn
  | logFilter
deriving DecidableEq, Repr

namespace Field

/-- What a field holds. -/
def Content : Field → Type
  | .csvDelimiter => Char
  | .detectIndexColumn => Bool
  | _ => String

/-- All fields, in the order in which they are declared. -/
def all : List Field :=
  [.nestedColumn, .markerTag, .markerTypeAttr, .markerTypeValue, .markerValueAttr, .keySeparator,
    .csvDelimiter, .lineTerminator, .sheetName, .detectIndexColumn, .logFilter]

def name : Field → String
  | .nestedColumn => "nested_column"
  | .markerTag => "marker_tag"
  | .markerTypeAttr => "marker_type_attr"
  | .markerTypeValue => "marker_type_value"
  | .markerValueAttr => "marker_value_attr"
  | .keySeparator => "key_separator"
  | .csvDelimiter => "csv_delimiter"
  | .lineTerminator => "line_terminator"
  | .sheetName => "sheet_name"
  | .detectIndexColumn => "detect_index_column"
  | .logFilter => "log_filter"

def get (s : Settings) : (f : Field) → f.Content
  | .nestedColumn => s.nestedColumn
  | .markerTag => s.markerTag
  | .markerTypeAttr => s.markerTypeAttr
  | .markerTypeValue => s.markerTypeValue
  | .markerValueAttr => s.markerValueAttr
  | .keySeparator => s.keySeparator
  | .csvDelimiter => s.csvDelimiter
  | .lineTerminator => s.lineTerminator
  | .sheetName => s.sheetName
  | .detectIndexColumn => s.detectIndexColumn
  | .logFilter => s.logFilter

def set (s : Settings) : (f : Field) → f.Content → Settings
  | .nestedColumn, v => { s with nestedColumn := v }
  | .markerTag, v => { s with markerTag := v }
  | .markerTypeAttr, v => { s with markerTypeAttr := v }
  | .markerTypeValue, v => { s with markerTypeValue := v }
  | .markerValueAttr, v => { s with markerValueAttr := v }
  | .keySeparator, v => { s with keySeparator := v }
  | .csvDelimiter, v => { s with csvDelimiter := v }
  | .lineTerminator, v => { s with lineTerminator := v }
  | .sheetName, v => { s with sheetName := v }
  | .detectIndexColumn, v => { s with detectIndexColumn := v }
  | .logFilter, v => { s with logFilter := v }

/-- The settings whose fields hold what is given for them. -/
def make (content : (f : Field) → f.Content) : Settings where
  nestedColumn := content .nestedColumn
  markerTag := content .markerTag
  markerTypeAttr := content .markerTypeAttr
  markerTypeValue := content .markerTypeValue
  markerValueAttr := content .markerValueAttr
  keySeparator := content .keySeparator
  csvDelimiter := content .csvDelimiter
  lineTerminator := content .lineTerminator
  sheetName := content .sheetName
  detectIndexColumn := content .detectIndexColumn
  logFilter := content .logFilter

/-- The value of a layer that gives a field this content. -/
def value : (f : Field) → f.Content → Value
  | .csvDelimiter, (c : Char) => .text (String.singleton c)
  | .detectIndexColumn, (b : Bool) => .flag b
  | .nestedColumn, (s : String) | .markerTag, (s : String) | .markerTypeAttr, (s : String)
  | .markerTypeValue, (s : String) | .markerValueAttr, (s : String) | .keySeparator, (s : String)
  | .lineTerminator, (s : String) | .sheetName, (s : String) | .logFilter, (s : String) => .text s

theorem mem_all (f : Field) : f ∈ all := by
  cases f <;> decide

theorem fieldNames_eq : fieldNames = all.map name := rfl

variable {s s' : Settings} {f g : Field}

@[simp]
theorem get_set_self (s : Settings) (f : Field) (v : f.Content) : get (set s f v) f = v := by
  cases f <;> rfl

@[simp]
theorem get_set_of_ne (s : Settings) (v : f.Content) (h : g ≠ f) : get (set s f v) g = get s g := by
  cases f <;> cases g <;> first | rfl | exact absurd rfl h

@[simp] theorem get_make (content : (f : Field) → f.Content) (f : Field) :
    get (make content) f = content f := by
  cases f <;> rfl

/-- Settings are what their fields hold. -/
theorem ext_get (h : ∀ f, get s f = get s' f) : s = s' := by
  obtain ⟨⟩ := s
  obtain ⟨⟩ := s'
  congr
  · exact h .nestedColumn
  · exact h .markerTag
  · exact h .markerTypeAttr
  · exact h .markerTypeValue
  · exact h .markerValueAttr
  · exact h .keySeparator
  · exact h .csvDelimiter
  · exact h .lineTerminator
  · exact h .sheetName
  · exact h .detectIndexColumn
  · exact h .logFilter

end Field

/-! ## Values -/

namespace Value

variable {v : Value}

theorem text?_eq_some_iff {s : String} : v.text? = some s ↔ v = .text s := by
  cases v <;> simp [text?]

theorem flag?_eq_some_iff {b : Bool} : v.flag? = some b ↔ v = .flag b := by
  cases v <;> simp [flag?]

theorem char?_eq_some_iff {c : Char} : v.char? = some c ↔ v = .text (String.singleton c) := by
  cases v with
  | flag b => simp [char?]
  | other => simp [char?]
  | text s =>
    rw [Value.text.injEq, ← String.toList_inj, String.toList_singleton]
    unfold char?
    dsimp only
    rcases s.toList with _ | ⟨first, _ | ⟨second, rest⟩⟩
    · simp
    · simp
    · simp

end Value

/-- **A field takes the values of its type and no others.** -/
theorem assign?_eq_some_iff {s s' : Settings} {f : Field} {v : Value} :
    s.assign? f.name v = some s' ↔ ∃ content, v = f.value content ∧ f.set s content = s' := by
  have htaken {β : Type} {read : Option β} {put : β → Settings} {make : β → Value}
      (hread : ∀ x, read = some x ↔ v = make x) :
      read.map put = some s' ↔ ∃ x, v = make x ∧ put x = s' := by
    rw [Option.map_eq_some_iff]
    exact exists_congr fun x => by rw [hread]
  cases f with
  | csvDelimiter => exact htaken fun c => Value.char?_eq_some_iff
  | detectIndexColumn => exact htaken fun b => Value.flag?_eq_some_iff
  | nestedColumn | markerTag | markerTypeAttr | markerTypeValue | markerValueAttr | keySeparator
  | lineTerminator | sheetName | logFilter => exact htaken fun text => Value.text?_eq_some_iff

/-! ## Layers -/

variable {document : Option String} {environment : List (String × String)} {layer top : Layer}
  {file env : (f : Field) → Option f.Content}

/-- What a layer says of the fields that no layer above it sets: what is chosen for them, if
anything is. -/
def Layer.Says (layer : Layer) (above choice : (f : Field) → Option f.Content) : Prop :=
  ∀ f, above f = none → layer.value? f.name = (choice f).map f.value

/-- The settings in which each field is taken from the environment, or else from the document, or
else it is the default. -/
def layered (env file : (f : Field) → Option f.Content) : Settings :=
  Field.make fun f => ((env f).or (file f)).getD (f.get {})

@[simp] theorem value?_append (layer top : Layer) (name : String) :
    Layer.value? (layer ++ top) name = (top.value? name).or (layer.value? name) := by
  unfold Layer.value?
  rw [List.reverse_append, List.lookup_append]

/-- Merged layers say of each field what the upper one says, or else the lower one. -/
theorem value?_of_says (hfile : layer.Says env file) (henv : top.Says (fun _ => none) env)
    (f : Field) :
    Layer.value? [layer, top].flatten f.name = ((env f).or (file f)).map f.value := by
  have htop := henv f rfl
  show Layer.value? (layer ++ (top ++ [])) f.name = _
  rw [List.append_nil, value?_append, htop]
  cases he : env f with
  | none =>
    rw [hfile f he]
    rfl
  | some content => rfl

section Put

variable (choice : (f : Field) → Option f.Content) (s : Settings) {f g : Field}

/-- Sets a field to what is chosen for it, if anything is. -/
def put (f : Field) : Settings :=
  match choice f with
  | some content => f.set s content
  | none => s

theorem get_put_self : f.get (put choice s f) = (choice f).getD (f.get s) := by
  unfold put
  cases choice f with
  | none => rfl
  | some content => exact Field.get_set_self s f content

theorem get_put_of_ne (h : g ≠ f) : g.get (put choice s f) = g.get s := by
  unfold put
  cases choice f with
  | none => rfl
  | some content => exact Field.get_set_of_ne s content h

/-- A step of reading sets its field to what is chosen for it. -/
theorem step_eq_put (f : Field) :
    (match (choice f).map f.value with
      | some value => s.assign? f.name value
      | none => some s) = some (put choice s f) := by
  unfold put
  cases choice f with
  | none => rfl
  | some content => exact assign?_eq_some_iff.mpr ⟨content, rfl, rfl⟩

/-- When some fields have had their turn, these are what is chosen for them, and the others are as
they were. -/
theorem get_foldl_put (fs : List Field) (g : Field) :
    g.get (fs.foldl (put choice) s) =
      if g ∈ fs then (choice g).getD (g.get s) else g.get s := by
  induction fs generalizing s with
  | nil => rfl
  | cons f fs ih =>
    rw [List.foldl_cons, ih]
    by_cases hg : g = f
    · subst hg
      rw [get_put_self, if_pos List.mem_cons_self]
      cases choice g <;> simp
    · have hmem : g ∈ f :: fs ↔ g ∈ fs := by simp [hg]
      rw [get_put_of_ne choice s hg]
      simp only [hmem]

end Put

/-- **What the layers give is taken field by field.** -/
theorem ofLayers?_of_says (hfile : layer.Says env file) (henv : top.Says (fun _ => none) env) :
    ofLayers? [layer, top] = some (layered env file) := by
  let choice (f : Field) : Option f.Content := (env f).or (file f)
  have hfold (fs : List Field) (s : Settings) : (fs.map Field.name).foldlM
      (fun s name =>
        match Layer.value? [layer, top].flatten name with
        | some value => s.assign? name value
        | none => some s) s = some (fs.foldl (put choice) s) := by
    induction fs generalizing s with
    | nil => rfl
    | cons f fs ih =>
      rw [List.map_cons, List.foldlM_cons, value?_of_says hfile henv f, List.foldl_cons, ← ih]
      exact congrArg (Option.bind · _) (step_eq_put choice s f)
  have hall : ofLayers? [layer, top] = some (Field.all.foldl (put choice) {}) := by
    unfold ofLayers?
    rw [Field.fieldNames_eq]
    exact hfold Field.all {}
  rw [hall]
  refine congrArg some (Field.ext_get fun f => ?_)
  rw [get_foldl_put, if_pos f.mem_all, layered, Field.get_make]

/-! ## Loading -/

theorem load_of_says (hdocument : Layer.ofDocument? document = some layer)
    (hfile : layer.Says env file)
    (henv : (Layer.ofEnvironment environment).Says (fun _ => none) env) :
    (∀ fault, (layered env file).fault? = some fault →
      load document environment = .error (.badLoadedSettings fault)) ∧
    ((layered env file).fault? = none →
      load document environment =
        if isLogFilter (layered env file).logFilter then .ok (layered env file)
        else .error .badLogFilter) := by
  have hloaded := ofLayers?_of_says hfile henv
  constructor
  · intro fault hfault
    unfold load
    simp only [hdocument, Option.bind_some, hloaded, hfault]
  · intro hvalid
    unfold load
    simp only [hdocument, Option.bind_some, hloaded, hvalid]

/-- What is loaded has been checked. -/
theorem fault?_of_load {s : Settings} (h : load document environment = .ok s) :
    s.fault? = none := by
  unfold load at h
  dsimp only at h
  split at h
  · exact absurd h nofun
  · split at h
    · exact absurd h nofun
    · rename_i hfault
      split at h
      · exact Except.ok.inj h ▸ hfault
      · exact absurd h nofun

/-- Only the selector can keep a processor from being made of settings that were checked. -/
theorem exists_ofSettings_error_iff {s : Settings} (hvalid : s.fault? = none) :
    (∃ failure, Processor.ofSettings s = .error failure) ↔ Selector.parse? s.markerTag = none := by
  unfold Processor.ofSettings Cleaner.ofSettings?
  rw [hvalid]
  cases Selector.parse? s.markerTag with
  | none => exact ⟨fun _ => rfl, fun _ => ⟨.badMarkerTag, rfl⟩⟩
  | some marker => exact ⟨fun ⟨failure, h⟩ => absurd h nofun, nofun⟩

/-- **Settings are loaded field by field.** They are what the layers say, if these settings are
valid and their log filter can be read, and whatever is hidden does not count. Of settings that were
loaded, only the selector is left to be refused. -/
theorem load_layered (hdocument : Layer.ofDocument? document = some layer)
    (hfile : layer.Says env file)
    (henv : (Layer.ofEnvironment environment).Says (fun _ => none) env) :
    ((layered env file).fault? = none ∧ isLogFilter (layered env file).logFilter = true →
      load document environment = .ok (layered env file)) ∧
    (¬ ((layered env file).fault? = none ∧ isLogFilter (layered env file).logFilter = true) →
      ∃ failure, load document environment = .error failure ∧ failure.report.kind = .config) ∧
    ∀ document environment s, load document environment = .ok s →
      ((∃ failure, Processor.ofSettings s = .error failure) ↔
        Selector.parse? s.markerTag = none) := by
  obtain ⟨hfaulty, hchecked⟩ := load_of_says hdocument hfile henv
  refine ⟨?_, ?_, fun _ _ s hs => exists_ofSettings_error_iff (fault?_of_load hs)⟩
  · rintro ⟨hvalid, hfilter⟩
    rw [hchecked hvalid, if_pos hfilter]
  · intro hbad
    cases hfault : (layered env file).fault? with
    | some fault => exact ⟨.badLoadedSettings fault, hfaulty fault hfault, rfl⟩
    | none =>
      have hfilter : ¬ isLogFilter (layered env file).logFilter = true := fun h =>
        hbad ⟨hfault, h⟩
      exact ⟨.badLogFilter, (hchecked hfault).trans (if_neg hfilter), rfl⟩

/-- A document with a number where a text belongs and a blank name, both hidden, and variables in
upper and lower case. -/
theorem load_layered_hidden :
    let document :=
      "nested_column = \"Extra\"\nmarker_tag = 7\ncsv_delimiter = \";\"\nsheet_name = \"\"\n"
    let environment := [("SCRIBE_EXPORT_SHEET_NAME", "FromEnv"), ("HOME", "/"),
      ("scribe_export_detect_index_column", "false"), ("SCRIBE_EXPORT_MARKER_TAG", "span")]
    let layer : Layer := [("nested_column", .text "Extra"), ("marker_tag", .other),
      ("csv_delimiter", .text ";"), ("sheet_name", .text "")]
    let file : (f : Field) → Option f.Content
      | .nestedColumn => some "Extra"
      | .csvDelimiter => some ';'
      | _ => none
    let env : (f : Field) → Option f.Content
      | .markerTag => some "span"
      | .sheetName => some "FromEnv"
      | .detectIndexColumn => some false
      | _ => none
    let s : Settings :=
      { nestedColumn := "Extra"
        markerTag := "span"
        csvDelimiter := ';'
        sheetName := "FromEnv"
        detectIndexColumn := false }
    Layer.ofDocument? (some document) = some layer ∧ layer.Says env file ∧
      (Layer.ofEnvironment environment).Says (fun _ => none) env ∧ layered env file = s ∧
      load (some document) environment = .ok s := by
  intro document environment layer file env s
  have hdocument : Layer.ofDocument? (some document) = some layer := by decide +kernel
  have hvariables : Layer.ofEnvironment environment =
      [("sheet_name", .text "FromEnv"), ("detect_index_column", .flag false),
        ("marker_tag", .text "span")] := by decide +kernel
  have hfile : layer.Says env file := by
    intro f hf
    cases f <;> first | rfl | exact absurd hf nofun
  have henv : (Layer.ofEnvironment environment).Says (fun _ => none) env := by
    intro f _
    rw [hvariables]
    cases f <;> rfl
  have hchecked : s.fault? = none ∧ isLogFilter s.logFilter = true := by decide
  exact ⟨hdocument, hfile, henv, rfl, (load_layered hdocument hfile henv).1 hchecked⟩

end TidyTable.Settings
