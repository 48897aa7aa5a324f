import TidyTable.Proofs.Invariant
import TidyTable.Proofs.Sheet.Rectangle
import TidyTable.Sheet.Codec

/-!
# From a rectangle to a table

The first row of a rectangle names the columns and the other rows are the rows of the table. All
rows of a rectangle are equally long, so the table is well-formed.

As with text, the nested column is looked up once and places are compared afterwards, which is the
same as comparing names.
-/

namespace TidyTable

namespace Sheet

variable {g : Grid} {w : Nat}

/-- The first row of a rectangle names the columns, and every value is read for the name it stands
under. -/
theorem tableOf_cons (settings : Settings) (names : List Scalar) {rows : Grid}
    (hlen : ∀ row ∈ rows, row.length = names.length) :
    tableOf settings (names :: rows) =
      { columns := Header.normalize (names.map header)
        rows := rows.map fun row => (Header.normalize (names.map header)).zipWith
          (fun name v => Cell.ofScalar (name == settings.nestedColumn) v) row } := by
  have hn := Header.nodup_normalize (names.map header)
  have hwidth : (Header.normalize (names.map header)).length = names.length := by
    rw [Header.length_normalize, List.length_map]
  unfold tableOf Table.ofHeaders Table.columnIndex?
  dsimp only
  congr 1
  exact List.map_congr_left fun row hrow => Header.mapIdx_eq_zipWith hn settings.nestedColumn
    Cell.ofScalar ((hlen row hrow).trans hwidth.symm)

/-- The row of the names is no row of the table. -/
theorem length_rows_tableOf (settings : Settings) (g : Grid) :
    (tableOf settings g).rows.length = g.length - 1 := by
  cases g with
  | nil => rfl
  | cons names rows => exact List.length_map _

theorem wellFormed_tableOf (settings : Settings) (hlen : ∀ row ∈ g, row.length = w) :
    (tableOf settings g).WellFormed := by
  cases g with
  | nil => exact ⟨List.nodup_nil, nofun⟩
  | cons names rows =>
    obtain ⟨hnames, hrows⟩ := List.forall_mem_cons.mp hlen
    rw [tableOf_cons settings names fun row hrow => (hrows row hrow).trans hnames.symm]
    refine ⟨Header.nodup_normalize _, fun row hrow => ?_⟩
    obtain ⟨r, hr, rfl⟩ := List.mem_map.mp hrow
    simp [hrows r hr, hnames]

/-- The rows of the part of a sheet that is used pass the check of a row that is added: the table
they give that way is the same. -/
theorem pushAll?_tableOf_used (settings : Settings) (g : Grid) :
    let t := tableOf settings g.used
    ({ columns := t.columns } : Table).pushAll? t.rows = some t := by
  obtain ⟨width, hlen⟩ := g.exists_length_used
  exact (wellFormed_tableOf settings hlen).pushAll?_rows

end Sheet

namespace Table

variable {settings : Settings} {w : Workbook} {t : Table}

/-- What a workbook is read as. -/
theorem exists_of_ofWorkbook (h : ofWorkbook settings w = .ok t) :
    ∃ sheet rest g, w.sheets = sheet :: rest ∧ sheet.values? = some g ∧
      t = if settings.detectIndexColumn then (Sheet.tableOf settings g.used).dropIndex
        else Sheet.tableOf settings g.used := by
  unfold ofWorkbook at h
  split at h
  · exact absurd h nofun
  · rename_i sheet rest hsheets
    split at h
    · exact absurd h nofun
    · rename_i g hvalues
      exact ⟨sheet, rest, g, hsheets, hvalues, (Except.ok.inj h).symm⟩

/-- **A table that is read from a workbook is well-formed.** -/
theorem wellFormed_of_ofWorkbook (h : ofWorkbook settings w = .ok t) : t.WellFormed := by
  obtain ⟨sheet, rest, g, _, _, rfl⟩ := exists_of_ofWorkbook h
  obtain ⟨width, hlen⟩ := g.exists_length_used
  have hwell := Sheet.wellFormed_tableOf settings hlen
  split
  · exact hwell.dropIndex
  · exact hwell

end Table

end TidyTable
