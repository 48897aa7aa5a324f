import TidyTable.Proofs.Fidelity
import TidyTable.Proofs.Sheet.Writing

/-!
# What can be written to a sheet

A sheet has limits: so many rows and columns, texts of so many characters, and a name of a certain
form. `Short` is the limit on texts in terms of the texts themselves, and `fits_iff` says that it is
what decides whether the cells of a table can be written.

Settings are checked before they are used, so a table within the limits should always be written.
The check on the name of the sheet asks for the length and the characters of one, but there is one
rule more: no quote may stand at either end of it. That is all that is missing. With such a name no
table is written, and with any other name every table within the limits is.
-/

namespace TidyTable

/-- The text that a cell is written as, if it is written as a text it holds. -/
def Cell.heldText? : Cell → Option String
  | .plain (.text s) | .markup s => some s
  | .record fields => some fields.text
  | .plain _ => none

namespace Sheet

variable {settings : Settings} {t : Table} {cell : Cell}

/-! ## Texts -/

theorem storedAs_entry_iff :
    StoredAs cell (entry cell) ↔ ∀ s ∈ cell.heldText?, s.length ≤ maxText := by
  have hentry : StoredAs cell (entry cell) ↔ ∃ v, StoredAs cell v :=
    ⟨fun h => ⟨_, h⟩, fun ⟨v, h⟩ => ((storedAs_iff cell v).mp h).1⟩
  have htext (s : String) :
      (∃ v, StoredAs (.text s) v) ↔ ∀ s' ∈ some s, s'.length ≤ maxText := by
    refine ⟨fun ⟨v, h⟩ s' hs => ?_, fun h => ⟨_, storedAs_text_iff.mpr ⟨h s rfl, rfl⟩⟩⟩
    rw [← Option.some.inj hs]
    exact (storedAs_text_iff.mp h).1
  rw [hentry]
  cases cell with
  | markup s => exact htext s
  | record fields => exact htext fields.text
  | plain value =>
    cases value with
    | text s => exact htext s
    | empty | int _ | float _ | bool _ | dateTime _ => exact ⟨fun _ => nofun, fun _ => ⟨_, rfl⟩⟩

/-- No text of a table is longer than a sheet allows. -/
structure Short (t : Table) : Prop where
  columns : ∀ name ∈ t.columns, name.length ≤ maxText
  cells : ∀ row ∈ t.rows, ∀ cell ∈ row, ∀ s ∈ cell.heldText?, s.length ≤ maxText

theorem fits_iff : Fits t ↔ Short t := by
  constructor
  · intro h
    refine ⟨fun name hname => ?_, fun row hrow cell hcell => ?_⟩
    · exact storedAs_entry_iff.mp (h.columns name hname) name rfl
    · exact storedAs_entry_iff.mp (h.cells row hrow cell hcell)
  · intro h
    refine ⟨fun name hname => ?_, fun row hrow cell hcell => ?_⟩
    · exact storedAs_entry_iff.mpr fun s hs => Option.some.inj hs ▸ h.columns name hname
    · exact storedAs_entry_iff.mpr (h.cells row hrow cell hcell)

/-! ## Names -/

/-- Whether a quote stands at an end of a text. -/
def isQuoted (s : String) : Bool :=
  s.toList.head? == some '\x27' || s.toList.getLast? == some '\x27'

/-- A name that settings may have is the name of a sheet unless there is a quote at an end of it. -/
theorem isName_of_valid (h : settings.Valid) :
    isName settings.sheetName = !isQuoted settings.sheetName := by
  have hne : settings.sheetName.isEmpty = false := by
    rw [String.isEmpty_eq_false_iff]
    intro e
    exact h.sheetNameLength.1 (by rw [e]; rfl)
  have hforbidden : settings.sheetName.toList.any Settings.sheetNameForbidden.contains = false := by
    rw [List.any_eq_false]
    exact fun c hc => by simpa using h.sheetNameCharacters c hc
  unfold isName isQuoted
  rw [hne, hforbidden]
  simp [h.sheetNameLength.2, Bool.not_or, bne]

end Sheet

namespace Table

variable {settings : Settings} {p : Processor} {t : Table}

/-- Settings of which only the name of the sheet is chosen have the standard cleaner. -/
theorem ofSettings_sheetName {name : String}
    (h : Settings.fault? { sheetName := name } = none) :
    Processor.ofSettings { sheetName := name }
      = .ok { Processor.standard with settings := { sheetName := name } } := by
  -- the cleaner is made from other settings
  have hsame : Cleaner.ofSettings? { sheetName := name } = Cleaner.ofSettings? {} := rfl
  have hcleaner : Cleaner.ofSettings? { sheetName := name } = some Processor.standard.cleaner :=
    hsame.trans (by decide +kernel)
  simp only [Processor.ofSettings, h, hcleaner]

/-- **Every table within the limits is written**, under all settings that a processor can be made
from, unless a quote stands at an end of the name of the sheet. Then none is. The limit of columns
is on the names: a row longer than them would have cells beyond it, but no table with such a row is
built, as every table that is read or cleaned up is well formed. -/
theorem toWorkbook_of_settings (hp : Processor.ofSettings settings = .ok p)
    (hrows : t.rows.length < Sheet.maxRows) (hcolumns : t.columns.length < Sheet.maxColumns)
    (hshort : Sheet.Short t) :
    t.toWorkbook settings =
      if Sheet.isQuoted settings.sheetName then .error .unwritableSheet
      else .ok (Sheet.book settings (Sheet.written t)) := by
  have hvalid := Settings.fault?_eq_none_iff.mp (Processor.settings_of_ofSettings hp).2
  have hname := Sheet.isName_of_valid hvalid
  cases hquoted : Sheet.isQuoted settings.sheetName with
  | true =>
    rw [hquoted] at hname
    unfold toWorkbook
    rw [if_neg (by omega), if_neg (by omega), hname]
    rfl
  | false =>
    rw [hquoted] at hname
    exact Sheet.toWorkbook_eq_ok_iff.mpr ⟨⟨hrows, hcolumns, hname, Sheet.fits_iff.mpr hshort⟩, rfl⟩

/-- A name with a quote inside, a name of a column, markup, and a record that is written as text. -/
theorem toWorkbook_of_settings_inner_quote :
    let settings : Settings := { sheetName := "it's" }
    let p : Processor := { Processor.standard with settings }
    let t : Table :=
      { columns := ["n", "More"]
        rows := [[.markup "<b>", .record [("k", .string "v")]], [.plain (.int 1), .empty]] }
    Processor.ofSettings settings = .ok p ∧ t.WellFormed ∧ t.rows.length < Sheet.maxRows ∧
      t.columns.length < Sheet.maxColumns ∧ Sheet.Short t ∧
      t.toWorkbook settings = .ok (Sheet.book settings (Sheet.written t)) := by
  intro settings p t
  have hp : Processor.ofSettings settings = .ok p := ofSettings_sheetName (by decide)
  have hshort : Sheet.Short t := ⟨by decide, by decide +kernel⟩
  refine ⟨hp, by decide, by decide, by decide, hshort, ?_⟩
  exact (toWorkbook_of_settings hp (by decide) (by decide) hshort).trans (if_neg (by decide))

/-- A name that begins with a quote is taken for valid, and then nothing is written. -/
theorem toWorkbook_of_settings_leading_quote :
    let settings : Settings := { sheetName := "'a" }
    let p : Processor := { Processor.standard with settings }
    let t : Table := { columns := ["A"], rows := [[.text "x"]] }
    Processor.ofSettings settings = .ok p ∧ t.WellFormed ∧ t.rows.length < Sheet.maxRows ∧
      t.columns.length < Sheet.maxColumns ∧ Sheet.Short t ∧
      t.toWorkbook settings = .error .unwritableSheet := by
  intro settings p t
  have hp : Processor.ofSettings settings = .ok p := ofSettings_sheetName (by decide)
  exact ⟨hp, by decide, by decide, by decide, ⟨by decide, by decide +kernel⟩, by decide +kernel⟩

end Table

end TidyTable
