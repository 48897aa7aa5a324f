import TidyTable.Proofs.Fidelity
import TidyTable.Proofs.Sheet.RoundTrip

/-!
# When a workbook stays as it is

Processing a workbook that came out of processing gives the same workbook again, if the table it was
written for is `Finished`: no column is nested or takes part in naming the index, and no text is
markup. What is written for a cell is written again for what it is read as, whatever kinds were lost
in between.

There is one exception, and it is real. The header of a table without columns is a blank row. Above
the numbers of the rows nothing else is written, so the rectangle that is read begins with the first
number; this number becomes the name of a column, and a row is lost.
-/

namespace TidyTable

/-! ## Texts that are no markup -/

/-- The text of a record begins with a brace. -/
theorem Record.looksLikeMarkup_text (fields : Record) :
    Cell.looksLikeMarkup fields.text = false := by
  have hhead : ∃ rest, fields.text.toList = '\x7b' :: rest := by
    unfold Record.text Json.text
    rw [String.toList_ofList]
    cases fields with
    | nil => exact ⟨_, rfl⟩
    | cons field fields => exact ⟨_, rfl⟩
  obtain ⟨rest, hrest⟩ := hhead
  unfold Cell.looksLikeMarkup
  rw [hrest]
  rfl

namespace Table

variable {settings : Settings} {nested : String} {t : Table} {w : Workbook} {row : Row}

/-- A cell that flattening leaves was there before, or it is plain. -/
theorem mem_row_flatten {nested separator : String} (hrow : row ∈ (t.flatten nested separator).rows)
    {cell : Cell} (hcell : cell ∈ row) :
    (∃ r ∈ t.rows, cell ∈ r) ∨ ∃ v, cell = .plain v := by
  rcases flatten_cases nested separator t with ⟨-, hflat⟩ | ⟨k, -, hflat⟩
  · rw [hflat] at hrow
    exact Or.inl ⟨row, hrow, hcell⟩
  · rw [hflat] at hrow
    obtain ⟨r, hr, rfl⟩ := List.mem_map.mp hrow
    rcases List.mem_append.mp hcell with hcell | hcell
    · exact Or.inl ⟨r, hr, List.mem_of_mem_eraseIdx hcell⟩
    · obtain ⟨path, _, rfl⟩ := List.mem_map.mp hcell
      exact Or.inr ⟨_, rfl⟩

/-- No markup is left in a table that was cleaned up. -/
theorem markup_not_mem_processTable (p : Processor) (hrow : row ∈ (p.processTable t).rows)
    (s : String) : Cell.markup s ∉ row := by
  intro hcell
  rcases mem_row_flatten hrow hcell with ⟨r, hr, hcell⟩ | ⟨v, hv⟩
  · obtain ⟨r, _, rfl⟩ := List.mem_map.mp hr
    obtain ⟨cell, _, hclean⟩ := List.mem_map.mp hcell
    cases cell with
    | plain v => exact absurd hclean nofun
    | markup s => exact absurd hclean nofun
    | record fields => exact absurd hclean nofun
  · exact absurd hv nofun

/-! ## Tables on which nothing is left to be done -/

/-- No column is nested or takes part in naming the index, and no text is markup. -/
structure Finished (nested : String) (t : Table) : Prop where
  blank_not_mem : "" ∉ t.columns
  unnamed_not_mem : Header.unnamed 0 ∉ t.columns
  nested_not_mem : nested ∉ t.columns
  no_markup : ∀ row ∈ t.rows, ∀ s, Cell.text s ∈ row → Cell.looksLikeMarkup s = false

end Table

namespace Sheet

variable {cell : Cell} {v : Scalar}

/-- A text that is written for a cell is markup only if the cell holds that text. -/
theorem StoredAs.looksLikeMarkup {s : String} (h : StoredAs cell (.text s))
    (hmarkup : ∀ s, cell ≠ .markup s)
    (htext : ∀ s, cell = .text s → Cell.looksLikeMarkup s = false) :
    Cell.looksLikeMarkup s = false := by
  have hsame {s' : String} (h : StoredAs (.text s') (.text s)) : s' = s := by
    obtain ⟨_, hs⟩ := storedAs_text_iff.mp h
    split at hs
    · exact absurd hs nofun
    · exact (Scalar.text.inj hs).symm
  cases cell with
  | markup s => exact absurd rfl (hmarkup s)
  | record fields => exact hsame h ▸ fields.looksLikeMarkup_text
  | plain value =>
    cases value with
    | text s' => exact htext s (congrArg Cell.text (hsame h))
    | empty => exact absurd (Option.some.inj h) nofun
    | int i => exact absurd (Option.some.inj h) nofun
    | bool b => exact absurd (Option.some.inj h) nofun
    | float x =>
      have htext : number x = .text s := Option.some.inj h
      rcases number_cases x with hnumber | ⟨negative, hnumber⟩ | hnumber
      · exact absurd (hnumber.symm.trans htext) nofun
      · rw [← Scalar.text.inj (hnumber.symm.trans htext)]
        cases negative <;> decide
      · exact absurd (hnumber.symm.trans htext) nofun
    | dateTime x =>
      have htext : serial x = .text s := Option.some.inj h
      rcases serial_cases x with hserial | ⟨negative, hserial⟩ | hserial
      · rw [← Scalar.text.inj (hserial.symm.trans htext)]
        decide
      · rw [← Scalar.text.inj (hserial.symm.trans htext)]
        cases negative <;> decide
      · exact absurd (hserial.symm.trans htext) nofun

/-- A value that is written and no markup is read as a plain cell. -/
theorem StoredAs.ofScalar_eq_plain (h : StoredAs cell v)
    (hmarkup : ∀ s, v = .text s → Cell.looksLikeMarkup s = false) :
    Cell.ofScalar false v = .plain v := by
  cases v with
  | text s =>
    show Cell.ofText false s = _
    unfold Cell.ofText
    rw [h.ne_empty, hmarkup s rfl]
    rfl
  | empty => rfl
  | int i => rfl
  | float x => rfl
  | bool b => rfl
  | dateTime x => rfl

end Sheet

/-! ## The second time -/

namespace Table

variable {settings : Settings} {nested : String} {t : Table} {w : Workbook}

/-- The table with every cell as the value that is written for it. -/
def entered (t : Table) : Table :=
  t.mapRows fun row => row.map fun cell => .plain (Sheet.entry cell)

/-- As such it comes back if it is finished. -/
theorem reopened_eq_entered (h : t.WellFormed) (hfits : Sheet.Fits t) (hfin : t.Finished nested)
    (hmarkup : ∀ row ∈ t.rows, ∀ s, Cell.markup s ∉ row) : t.reopened nested = t.entered := by
  have hrows : t.rows.map (fun row =>
        t.columns.zipWith (fun name cell => cell.reopened (name == nested)) row)
      = t.rows.map fun row => row.map fun cell => .plain (Sheet.entry cell) := by
    refine List.map_congr_left fun row hrow => ?_
    rw [Header.zipWith_of_not_mem hfin.nested_not_mem Cell.reopened (h.length_row row hrow)]
    refine List.map_congr_left fun cell hcell => ?_
    have hstored := hfits.cells row hrow cell hcell
    rw [← hstored.ofScalar_eq_reopened]
    refine hstored.ofScalar_eq_plain fun s hs => ?_
    rw [hs] at hstored
    exact hstored.looksLikeMarkup (fun s e => hmarkup row hrow s (e ▸ hcell))
      fun s e => hfin.no_markup row hrow s (e ▸ hcell)
  unfold reopened entered mapRows
  rw [hrows]

/-- The same is written for it. -/
theorem written_entered (hfits : Sheet.Fits t) : Sheet.written t.entered = Sheet.written t := by
  unfold Sheet.written Sheet.writtenRows entered mapRows
  dsimp only
  rw [List.zipIdx_map, List.map_map]
  congr 1
  refine List.map_congr_left fun ⟨row, n⟩ hmem => ?_
  dsimp only [Function.comp, Prod.map, id]
  rw [List.map_map]
  congr 1
  refine List.map_congr_left fun cell hcell => ?_
  have hstored := hfits.cells row (List.fst_mem_of_mem_zipIdx hmem) cell hcell
  exact ((Sheet.storedAs_iff _ _).mp hstored.again).2.symm

theorem storable_entered (h : Sheet.Storable settings t) : Sheet.Storable settings t.entered := by
  refine ⟨?_, h.columns, h.name, h.fits.columns, fun row hrow cell hcell => ?_⟩
  · unfold entered mapRows
    rw [List.length_map]
    exact h.rows
  · obtain ⟨r, hr, rfl⟩ := List.mem_map.mp hrow
    obtain ⟨c, hc, rfl⟩ := List.mem_map.mp hcell
    exact ((Sheet.storedAs_iff _ _).mp (h.fits.cells r hr c hc).again).1

theorem toWorkbook_entered (hw : t.toWorkbook settings = .ok w) :
    t.entered.toWorkbook settings = .ok w := by
  obtain ⟨hstore, rfl⟩ := Sheet.toWorkbook_eq_ok_iff.mp hw
  exact Sheet.toWorkbook_eq_ok_iff.mpr
    ⟨storable_entered hstore, by rw [written_entered hstore.fits]⟩

/-- A table without columns and rows comes back as it is. -/
theorem ofWorkbook_book_nil (hdetect : settings.detectIndexColumn = true) :
    ofWorkbook settings (Sheet.book settings (Sheet.written {})) = .ok {} := by
  have hread : ofWorkbook settings (Sheet.book settings (Sheet.written {}))
      = .ok (if settings.detectIndexColumn then ({} : Table).dropIndex else {}) := rfl
  rw [hread, if_pos hdetect]
  rfl

/-- **A finished table is read as one for which the same is written**, unless it has rows and no
columns. -/
theorem ofWorkbook_of_finished (hdetect : settings.detectIndexColumn = true) (h : t.WellFormed)
    (hfin : t.Finished settings.nestedColumn)
    (hmarkup : ∀ row ∈ t.rows, ∀ s, Cell.markup s ∉ row) (hshape : t.columns = [] → t.rows = [])
    (hw : t.toWorkbook settings = .ok w) : ofWorkbook settings w = .ok t.entered := by
  by_cases hcolumns : t.columns = []
  · obtain ⟨columns, rows⟩ := t
    obtain rfl : columns = [] := hcolumns
    obtain rfl : rows = [] := hshape rfl
    obtain ⟨_, rfl⟩ := Sheet.toWorkbook_eq_ok_iff.mp hw
    exact ofWorkbook_book_nil hdetect
  · have hfits := (Sheet.toWorkbook_eq_ok_iff.mp hw).1.fits
    rw [← reopened_eq_entered h hfits hfin hmarkup]
    exact ofWorkbook_of_written hdetect h hcolumns hfin.blank_not_mem hfin.unnamed_not_mem hw

/-- From what is written for rows without columns, a row less is read. -/
theorem length_rows_of_no_columns {u : Table} (h : t.WellFormed) (hcolumns : t.columns = [])
    (hrows : t.rows ≠ []) (hw : t.toWorkbook settings = .ok w)
    (hread : ofWorkbook settings w = .ok u) : u.rows.length < t.rows.length := by
  obtain ⟨hstore, rfl⟩ := Sheet.toWorkbook_eq_ok_iff.mp hw
  have hblank : "" ∉ t.columns := hcolumns ▸ List.not_mem_nil
  have hframed := Sheet.framed_written h hstore.fits hblank (Or.inr hrows)
  obtain ⟨sheet, rest, g, hsheets, hvalues, rfl⟩ := exists_of_ofWorkbook hread
  obtain ⟨rfl, rfl⟩ := List.cons.inj hsheets
  rw [hframed.fromCorner, Sheet.values?_eq_some _ (Sheet.read_of_mem_written hstore.fits)]
    at hvalues
  obtain rfl := Option.some.inj hvalues
  -- the row of the names is blank, so the first number is where the names are looked for
  have hused : (Sheet.written t).used.length ≤ t.rows.length := by
    rw [Sheet.written_eq hstore.fits hblank, hcolumns, List.map_nil,
      Grid.used_cons_of_isBlank rfl, ← Sheet.length_writtenRows]
    exact Grid.length_used_le _
  have hlen : (Sheet.tableOf settings (Sheet.written t).used).rows.length < t.rows.length := by
    rw [Sheet.length_rows_tableOf]
    have hpos := List.length_pos_iff.mpr hrows
    omega
  split
  · rwa [length_rows_dropIndex]
  · exact hlen

end Table

namespace Processor

variable {settings : Settings} {p : Processor} {t : Table} {w : Workbook} {out : Payload}

/-- A workbook is read, cleaned up and written. -/
theorem process_workbook_eq_ok_iff : p.process .spreadsheet (.workbook w) = .ok out ↔
    ∃ w' t, out = .workbook w' ∧ Table.ofWorkbook p.settings w = .ok t ∧
      (p.processTable t).toWorkbook p.settings = .ok w' := by
  have hrun : p.process .spreadsheet (.workbook w) = (p.processWorkbook w).map .workbook := rfl
  have hworkbook (w' : Workbook) : p.processWorkbook w = .ok w' ↔
      ∃ t, Table.ofWorkbook p.settings w = .ok t ∧
        (p.processTable t).toWorkbook p.settings = .ok w' := bind_eq_ok_iff
  rw [hrun, map_eq_ok_iff]
  simp only [hworkbook, exists_and_left]

/-- Nothing is left to be done on the values that were written for a table. -/
theorem processTable_entered (hnested : p.settings.nestedColumn ∉ t.columns) :
    p.processTable t.entered = t.entered := by
  have hclean : t.entered.mapRows p.processRow = t.entered := by
    unfold Table.entered Table.mapRows
    dsimp only
    rw [List.map_map]
    congr 1
    refine List.map_congr_left fun row _ => ?_
    dsimp only [Function.comp]
    unfold processRow Cleaner.cleanRow
    rw [List.map_map]
    rfl
  unfold processTable flatten
  rw [hclean]
  exact Table.flatten_of_not_mem _ hnested

/-- **Processing a workbook again changes nothing** if the table that was written is finished,
unless it has rows and no columns. Then it does change something. -/
theorem process_workbook_again (hp : ofSettings settings = .ok p)
    (hdetect : settings.detectIndexColumn = true)
    (hread : Table.ofWorkbook settings w = .ok t)
    (hfin : (p.processTable t).Finished settings.nestedColumn)
    (h : p.process .spreadsheet (.workbook w) = .ok out) :
    p.process .spreadsheet out = .ok out ↔
      ((p.processTable t).columns = [] → (p.processTable t).rows = []) := by
  obtain ⟨rfl, _⟩ := settings_of_ofSettings hp
  obtain ⟨w', u, rfl, hu, hwrite⟩ := process_workbook_eq_ok_iff.mp h
  obtain rfl := Except.ok.inj (hread.symm.trans hu)
  have hwell := (Table.wellFormed_of_ofWorkbook hread).process p
  constructor
  · -- a row is lost, so not as many rows are written again
    intro hagain hcolumns
    by_contra hrows
    obtain ⟨w'', u, hw, hreread, hrewrite⟩ := process_workbook_eq_ok_iff.mp hagain
    obtain rfl := Payload.workbook.inj hw
    have hlost := Table.length_rows_of_no_columns hwell hcolumns hrows hwrite hreread
    obtain ⟨sheet, hsheet, hlen⟩ :=
      Sheet.length_cells hwell (hcolumns ▸ List.not_mem_nil) (Or.inr hrows) hwrite
    have hle := Sheet.length_cells_le hrewrite sheet hsheet
    rw [Table.length_rows_processTable] at hle
    omega
  · intro hshape
    refine process_workbook_eq_ok_iff.mpr ⟨w', _, rfl, Table.ofWorkbook_of_finished hdetect hwell
      hfin (fun row hrow => Table.markup_not_mem_processTable p hrow) hshape hwrite, ?_⟩
    rw [processTable_entered hfin.nested_not_mem]
    exact Table.toWorkbook_entered hwrite

/-- A record with a number and a truth value, markup, and an integer that became a double. -/
theorem process_workbook_again_after_record :
    let w : Workbook :=
      { sheets := [{
          name := "S1"
          cells := [
            [.value (.text "name"), .value (.text "More"), .value (.text "n")],
            [.value (.text "<b>c</b>"), .value (.text "\x7b\"k\":1,\"l\":true\x7d"),
              .value (.float 2.5)]] }] }
    let t : Table :=
      { columns := ["name", "More", "n"]
        rows := [[.markup "<b>c</b>",
          .record [("k", .number (.integer 1)), ("l", .bool true)], .plain (.float 2.5)]] }
    let out : Workbook :=
      { sheets := [{
          name := "Sheet1"
          cells := [
            [.value .empty, .value (.text "name"), .value (.text "n"), .value (.text "k"),
              .value (.text "l")],
            [.value (.float 0.0), .value (.text "c"), .value (.float 2.5), .value (.float 1.0),
              .value (.bool true)]] }] }
    ofSettings {} = .ok standard ∧ ({} : Settings).detectIndexColumn = true ∧
      Table.ofWorkbook {} w = .ok t ∧ (standard.processTable t).Finished "More" ∧
      standard.process .spreadsheet (.workbook w) = .ok (.workbook out) ∧
      standard.process .spreadsheet (.workbook out) = .ok (.workbook out) := by
  intro w t out
  have hread : Table.ofWorkbook {} w = .ok t := by decide +kernel
  have hclean : standard.processTable t =
      { columns := ["name", "n", "k", "l"]
        rows := [[.text "c", .plain (.float 2.5), .plain (.int 1), .plain (.bool true)]] } := by
    decide +kernel
  have hfin : (standard.processTable t).Finished "More" := by
    rw [hclean]
    refine ⟨by decide, by decide, by decide, fun row hrow s hs => ?_⟩
    rw [List.mem_singleton.mp hrow] at hs
    obtain rfl : s = "c" := by simpa [Cell.text] using hs
    decide
  have hwrite : (standard.processTable t).toWorkbook {} = .ok out := by
    rw [hclean]
    decide +kernel
  have hprocess : standard.process .spreadsheet (.workbook w) = .ok (.workbook out) :=
    process_workbook_eq_ok_iff.mpr ⟨out, t, rfl, hread, hwrite⟩
  refine ⟨ofSettings_standard, rfl, hread, hfin, hprocess, ?_⟩
  exact (process_workbook_again ofSettings_standard rfl hread hfin hprocess).mpr
    fun hcolumns => absurd hcolumns (by rw [hclean]; decide)

/-- The nested column is the only one, so that a row without columns is written. -/
theorem process_workbook_again_without_columns :
    let w : Workbook :=
      { sheets := [{ name := "S1", cells := [[.value (.text "More")], [.value (.text "x")]] }] }
    let t : Table := { columns := ["More"], rows := [[.text "x"]] }
    let once : Workbook :=
      { sheets := [{ name := "Sheet1", cells := [[.value .empty], [.value (.float 0.0)]] }] }
    let twice : Workbook :=
      { sheets := [{ name := "Sheet1", cells := [[.value .empty, .value (.text "0")]] }] }
    ofSettings {} = .ok standard ∧ ({} : Settings).detectIndexColumn = true ∧
      Table.ofWorkbook {} w = .ok t ∧ (standard.processTable t).Finished "More" ∧
      standard.process .spreadsheet (.workbook w) = .ok (.workbook once) ∧
      standard.process .spreadsheet (.workbook once) = .ok (.workbook twice) ∧ once ≠ twice := by
  intro w t once twice
  have hread : Table.ofWorkbook {} w = .ok t := by decide +kernel
  have hclean : standard.processTable t = { columns := [], rows := [[]] } := by decide +kernel
  have hfin : (standard.processTable t).Finished "More" := by
    rw [hclean]
    refine ⟨by decide, by decide, by decide, fun row hrow s hs => ?_⟩
    rw [List.mem_singleton.mp hrow] at hs
    exact absurd hs List.not_mem_nil
  have hwrite : (standard.processTable t).toWorkbook {} = .ok once := by
    rw [hclean]
    decide +kernel
  have hreread : Table.ofWorkbook {} once = .ok { columns := ["0"], rows := [] } := by
    decide +kernel
  have hrewrite : (standard.processTable { columns := ["0"], rows := [] }).toWorkbook {}
      = .ok twice := by
    decide +kernel
  exact ⟨ofSettings_standard, rfl, hread, hfin,
    process_workbook_eq_ok_iff.mpr ⟨once, t, rfl, hread, hwrite⟩,
    process_workbook_eq_ok_iff.mpr ⟨twice, _, rfl, hreread, hrewrite⟩, by decide +kernel⟩

end Processor

end TidyTable
