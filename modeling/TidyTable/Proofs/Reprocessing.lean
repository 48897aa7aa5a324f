import TidyTable.Proofs.Fidelity
import TidyTable.Proofs.RoundTrip

/-!
# What is processed stays as it is

The text that processing gives is a text that can be processed. If the table it was written for is
`Settled`, nothing is left to be done: no column is nested, no cell is markup, and its index is seen
for what it is. Then the same text comes out again.

The kinds of the cells are lost in between. Numbers and truth values come back as plain texts, and
so do the texts of arrays. But cleaning leaves a plain cell alone whatever it holds, and a cell that
is read from a text is written as this text, so what is written cannot tell the difference.
-/

namespace TidyTable

namespace Table

variable {settings : Settings} {nested : String} {t u : Table}

/-- A table on which nothing is left to be done once it is written and read again. -/
structure Settled (nested : String) (t : Table) : Prop where
  blank_not_mem : "" ∉ t.columns
  unnamed_not_mem : Header.unnamed 0 ∉ t.columns
  nested_not_mem : nested ∉ t.columns
  no_markup : ∀ row ∈ t.rows, ∀ cell ∈ row, Cell.looksLikeMarkup cell.render = false

/-! ## Cells that are read from their own text -/

theorem render_ofText (s : String) : (Cell.ofText false s).render = s := by
  unfold Cell.ofText
  by_cases hempty : s.isEmpty = true
  · obtain rfl := String.isEmpty_iff.mp hempty
    rfl
  · rw [if_neg hempty, if_neg Bool.false_ne_true]
    dsimp only
    split <;> rfl

theorem clean_ofText (c : Cleaner) {s : String} (h : Cell.looksLikeMarkup s = false) :
    c.clean (Cell.ofText false s) = Cell.ofText false s := by
  unfold Cell.ofText
  rw [h]
  by_cases hempty : s.isEmpty = true
  · rw [if_pos hempty]
    rfl
  · rw [if_neg hempty]
    rfl

/-- Without a nested column every cell is read for itself. -/
theorem rows_reread (h : t.WellFormed) (hnested : nested ∉ t.columns) :
    (t.reread nested).rows
      = t.rows.map fun row => row.map fun cell => Cell.ofText false cell.render := by
  exact List.map_congr_left fun row hrow => Header.zipWith_of_not_mem hnested
    (fun nested cell => Cell.ofText nested cell.render) (h.length_row row hrow)

theorem WellFormed.reread (h : t.WellFormed) (nested : String) :
    (t.reread nested).WellFormed := by
  refine ⟨h.nodup_columns, fun row hrow => ?_⟩
  obtain ⟨r, hr, rfl⟩ := List.mem_map.mp hrow
  show (t.columns.zipWith _ r).length = t.columns.length
  rw [List.length_zipWith, h.length_row r hr, Nat.min_self]

/-! ## The second time -/

/-- What is written does not depend on the kinds of the cells. -/
theorem written_reread (h : t.WellFormed) (hnested : nested ∉ t.columns) :
    (t.reread nested).written = t.written := by
  unfold written
  rw [rows_reread h hnested, List.zipIdx_map, List.map_map]
  congr 1
  refine List.map_congr_left fun ⟨row, n⟩ _ => ?_
  dsimp only [Function.comp, Prod.map, id]
  rw [List.map_map]
  congr 1
  exact List.map_congr_left fun cell _ => render_ofText cell.render

/-- Tables for which the same is written have the same text. -/
theorem toCsv_congr (ht : t.WellFormed) (hu : u.WellFormed) (h : t.written = u.written) :
    t.toCsv settings = u.toCsv settings := by
  unfold toCsv
  rw [csvRecords_eq_ok ht.length_row, csvRecords_eq_ok hu.length_row, h]

end Table

namespace Processor

variable {settings : Settings} {p : Processor} {t : Table} {s : String} {out : Payload}

/-- A settled table, read again, is not changed. -/
theorem processTable_reread (h : t.WellFormed) (hset : t.Settled p.settings.nestedColumn) :
    p.processTable (t.reread p.settings.nestedColumn) = t.reread p.settings.nestedColumn := by
  have hclean : (t.reread p.settings.nestedColumn).mapRows p.processRow
      = t.reread p.settings.nestedColumn := by
    unfold Table.mapRows
    rw [Table.rows_reread h hset.nested_not_mem, List.map_map]
    have hrows : t.rows.map (p.processRow ∘ fun row =>
          row.map fun cell => Cell.ofText false cell.render)
        = t.rows.map fun row => row.map fun cell => Cell.ofText false cell.render := by
      refine List.map_congr_left fun row hrow => ?_
      show (row.map _).map p.cleaner.clean = _
      rw [List.map_map]
      exact List.map_congr_left fun cell hcell =>
        Table.clean_ofText p.cleaner (hset.no_markup row hrow cell hcell)
    rw [hrows, ← Table.rows_reread h hset.nested_not_mem]
  unfold processTable flatten
  rw [hclean]
  exact Table.flatten_of_not_mem _ hset.nested_not_mem

theorem process_emptyCsv (p : Processor) :
    p.process .csv (.text Payload.emptyCsv) = .ok (.text Payload.emptyCsv) := rfl

/-- **Processing again changes nothing** if the table that was written is settled. -/
theorem process_text_again (hp : ofSettings settings = .ok p)
    (hdetect : settings.detectIndexColumn = true)
    (h : p.process .csv (.text s) = .ok out)
    (hset : ∀ t, Table.ofCsv settings s = .ok t →
      (p.processTable t).Settled settings.nestedColumn) :
    p.process .csv out = .ok out := by
  obtain ⟨rfl, hvalid⟩ := settings_of_ofSettings hp
  -- a text without a table comes out as it is, the first time or the second
  by_cases hs : s = Payload.emptyCsv
  · rw [hs, process_emptyCsv] at h
    rw [← Except.ok.inj h, process_emptyCsv]
  obtain ⟨content, t, rfl, hread, hwrite⟩ := (process_text_eq_ok_iff hs).mp h
  by_cases hcontent : content = Payload.emptyCsv
  · rw [hcontent, process_emptyCsv]
  have hwell := (Table.wellFormed_of_ofCsv hvalid hread).process p
  have hdone := hset t hread
  obtain ⟨content', hwrite', hback⟩ :=
    Table.ofCsv_of_written hvalid hwell hdone.blank_not_mem hdone.unnamed_not_mem
  obtain rfl := Except.ok.inj (hwrite.symm.trans hwrite')
  rw [if_pos hdetect] at hback
  refine (process_text_eq_ok_iff hcontent).mpr ⟨content, _, rfl, hback, ?_⟩
  -- the kinds of the cells may differ, but what is written for them does not
  rw [processTable_reread hwell hdone, ← hwrite]
  exact Table.toCsv_congr (hwell.reread _) hwell (Table.written_reread hwell hdone.nested_not_mem)

/-- A record with a number, a truth value and an array, whose kinds are lost in between. -/
theorem process_text_again_after_record :
    let s := "name,More\na,\"\x7b\"\"k\"\":1,\"\"l\"\":[true]\x7d\"\n<b>c</b>,\n"
    let out := ",name,k,l\n0,a,1,[true]\n1,c,,\n"
    ofSettings {} = .ok standard ∧ ({} : Settings).detectIndexColumn = true ∧
      standard.process .csv (.text s) = .ok (.text out) ∧
      (∀ t, Table.ofCsv {} s = .ok t → (standard.processTable t).Settled "More") ∧
      standard.process .csv (.text out) = .ok (.text out) := by
  intro s out
  have hs : s ≠ Payload.emptyCsv := by decide
  have hread : Table.ofCsv {} s = .ok
      { columns := ["name", "More"]
        rows := [
          [.text "a", .record [("k", .number (.integer 1)), ("l", .array [.bool true])]],
          [.markup "<b>c</b>", .empty]] } := by decide +kernel
  have hclean : standard.processTable
      { columns := ["name", "More"]
        rows := [
          [.text "a", .record [("k", .number (.integer 1)), ("l", .array [.bool true])]],
          [.markup "<b>c</b>", .empty]] }
      = { columns := ["name", "k", "l"]
          rows := [
            [.text "a", .plain (.int 1), .text "[true]"], [.text "c", .empty, .empty]] } := by
    decide +kernel
  have hwrite : Table.toCsv {}
      { columns := ["name", "k", "l"]
        rows := [[.text "a", .plain (.int 1), .text "[true]"], [.text "c", .empty, .empty]] }
      = .ok out := by decide +kernel
  have hprocess : standard.process .csv (.text s) = .ok (.text out) :=
    (process_text_eq_ok_iff hs).mpr
      ⟨out, _, rfl, hread, (congrArg (Table.toCsv {}) hclean).trans hwrite⟩
  have hset : ∀ t, Table.ofCsv {} s = .ok t → (standard.processTable t).Settled "More" := by
    intro t ht
    obtain rfl := Except.ok.inj (hread.symm.trans ht)
    rw [hclean]
    exact ⟨by decide, by decide, by decide, by decide +kernel⟩
  exact ⟨ofSettings_standard, rfl, hprocess, hset,
    process_text_again ofSettings_standard rfl hprocess hset⟩

end Processor

end TidyTable
