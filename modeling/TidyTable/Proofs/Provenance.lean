import TidyTable.Proofs.Fidelity
import TidyTable.Proofs.Sheet.Reading

/-!
# Where tables come from

A table is read from a text or from a workbook, or it is what cleaning up made of such a table.
`Obtained` is every table that comes about in this way, and each of them is well-formed.

Nothing is asked of the settings here, not even that they are valid. Invalid settings may name a
delimiter that stands inside a character or is a quote, and then a text falls into other records or
is refused. But whatever the records are, each of them is filled up to the width of the header or
refused, and the names of the header are made distinct before any row is read.
-/

namespace TidyTable

/-! ## Rows and records -/

namespace Csv

variable {settings : Settings} {width : Nat} {nestedIndex : Option Nat} {t : Table}

theorem length_of_row {record : Record} {cells : Row}
    (h : row width nestedIndex record = .ok cells) : cells.length = width := by
  obtain ⟨fields, _, h⟩ := bind_eq_ok_iff.mp h
  split at h
  · rename_i cells' hfit
    rw [← Except.ok.inj h]
    exact Table.length_of_fit? hfit
  · exact absurd h nofun

/-- **Records that are a table are a well-formed one.** -/
theorem wellFormed_of_tableOf {read : List Record} (h : tableOf settings read = .ok t) :
    t.WellFormed := by
  cases read with
  | nil => exact absurd h nofun
  | cons header rest =>
    obtain ⟨raws, _, h⟩ := bind_eq_ok_iff.mp h
    obtain ⟨rows, hrows, h⟩ := bind_eq_ok_iff.mp h
    obtain rfl := Except.ok.inj h
    refine ⟨Header.nodup_normalize raws, fun cells hcells => ?_⟩
    -- each row is what some record became
    have hmem : Except.ok cells ∈ rows.map (Except.ok (ε := Failure)) :=
      List.mem_map_of_mem hcells
    rw [← mapM_eq_ok_iff.mp hrows] at hmem
    obtain ⟨record, _, hrecord⟩ := List.mem_map.mp hmem
    exact length_of_row hrecord

end Csv

/-! ## Tables -/

namespace Table

variable {t : Table}

/-- The tables that are read from a text or from a workbook, and those that are made of them by
cleaning up. Each of them may have settings of its own. -/
inductive Obtained : Table → Prop where
  | ofCsv {settings : Settings} {content : String} {t : Table} :
      Table.ofCsv settings content = .ok t → Obtained t
  | ofWorkbook {settings : Settings} {w : Workbook} {t : Table} :
      Table.ofWorkbook settings w = .ok t → Obtained t
  | processTable {t : Table} (p : Processor) : Obtained t → Obtained (p.processTable t)

/-- **Every table that is obtained is well-formed**: its names are distinct, and every row has one
cell for each of them. -/
theorem wellFormed_of_obtained (h : t.Obtained) : t.WellFormed := by
  induction h with
  | @ofCsv settings content t hread =>
    obtain ⟨u, hu, h⟩ := bind_eq_ok_iff.mp hread
    have hwell := Csv.wellFormed_of_tableOf hu
    rw [← Except.ok.inj h]
    split
    · exact hwell.dropIndex
    · exact hwell
  | ofWorkbook hread => exact wellFormed_of_ofWorkbook hread
  | processTable p _ ih => exact ih.process p

/-- A delimiter that no settings should have, headers that repeat, a short row, and a record with a
key that is the name of a column. -/
theorem wellFormed_of_obtained_repeated_headers :
    let settings : Settings := { csvDelimiter := '\u0101' }
    let content := "a\x01\x01a\x01More\n1\n<b>2</b>\x01\x013\x01\x7b\"a\":4,\"k\":[5]\x7d\n"
    let t : Table :=
      { columns := ["a", "Unnamed: 1", "a.1", "More"]
        rows := [
          [.text "1", .empty, .empty, .empty],
          [.markup "<b>2</b>", .empty, .text "3",
            .record [("a", .number (.integer 4)), ("k", .array [.number (.integer 5)])]]] }
    settings.fault? ≠ none ∧ Table.ofCsv settings content = .ok t ∧
      (Processor.standard.processTable t).Obtained ∧
      (Processor.standard.processTable t).WellFormed := by
  intro settings content t
  have hread : Table.ofCsv settings content = .ok t := by decide +kernel
  have hobtained : (Processor.standard.processTable t).Obtained :=
    .processTable Processor.standard (.ofCsv hread)
  exact ⟨by decide, hread, hobtained, wellFormed_of_obtained hobtained⟩

end Table

end TidyTable
