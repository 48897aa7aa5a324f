import TidyTable.Proofs.Ordinals
import TidyTable.Proofs.Writing

/-!
# A table comes back from its text

What is written for a table is read as the same table, up to the kinds of its cells: a cell comes
back as what its text is taken for. `Table.reread` is the table with every cell read from its text,
and `Table.indexed` is a table with the row index in front.

Reading gives the indexed table first. The blank header has a name of its own then, which it gets
before any other column is named. The index is in front under that name and counts the rows, so it
is dropped if indexes are looked for. That holds for every shape: without rows there is nothing that
the index could fail to count, and without columns the index is all that is written.

Behind the index the columns are named anew (`Table.renamed`). They keep their names if these are
distinct, not blank, and none of them is the name of the index.
-/

namespace TidyTable

namespace Table

variable {settings : Settings} {t : Table}

/-- The table with every cell read from its text. -/
def reread (nested : String) (t : Table) : Table :=
  { t with
    rows := t.rows.map fun row =>
      t.columns.zipWith (fun name cell => Cell.ofText (name == nested) cell.render) row }

/-- The table with the row index as its first column. -/
def indexed (t : Table) : Table :=
  { columns := Header.unnamed 0 :: t.columns
    rows := t.rows.zipIdx.map fun (row, n) => Cell.text (Decimal.naturalText n) :: row }

/-! ## The row index -/

/-- The index of a table is recognized and dropped. -/
theorem dropIndex_indexed (t : Table) : t.indexed.dropIndex = t :=
  dropIndex_withIndex fun n _ => Scalar.isOrdinal_naturalText n

/-! ## The names -/

/-- The table under the names that its columns get behind the blank one of the index. -/
def renamed (t : Table) : Table :=
  { t with columns := (Header.normalize ("" :: t.columns)).tail }

theorem normalize_blank_columns (t : Table) :
    Header.normalize ("" :: t.columns) = Header.unnamed 0 :: t.renamed.columns := by
  obtain ⟨others, hothers⟩ := Header.normalize_blank_cons t.columns
  unfold renamed
  rw [hothers, List.tail_cons]

@[simp] theorem length_renamed (t : Table) : t.renamed.columns.length = t.columns.length := by
  unfold renamed
  simp

/-- No column is renamed if the names are distinct, not blank, and none is that of the index. -/
theorem renamed_eq_self (h : t.WellFormed) (hblank : "" ∉ t.columns)
    (hfree : Header.unnamed 0 ∉ t.columns) : t.renamed = t := by
  unfold renamed
  rw [Header.normalize_indexed h.nodup_columns hblank hfree, List.tail_cons]

/-! ## Reading what was written -/

theorem length_of_mem_written (h : t.WellFormed) {texts : List String}
    (htexts : texts ∈ t.rows.zipIdx.map fun (row, n) =>
      Decimal.naturalText n :: row.map Cell.render) :
    texts.length = ("" :: t.columns).length := by
  obtain ⟨⟨row, n⟩, hmem, rfl⟩ := List.mem_map.mp htexts
  rw [List.length_cons, List.length_cons, List.length_map,
    h.length_row row (List.fst_mem_of_mem_zipIdx hmem)]

/-- The records of a table describe the table itself under its new names, with the index in
front. -/
theorem described_written (settings : Settings) (h : t.WellFormed) :
    Csv.described settings ("" :: t.columns)
        (t.rows.zipIdx.map fun (row, n) => Decimal.naturalText n :: row.map Cell.render)
      = (t.renamed.reread settings.nestedColumn).indexed := by
  unfold Csv.described ofTexts indexed reread
  rw [normalize_blank_columns]
  congr 1
  rw [List.map_map, List.map_map, List.zipIdx_map, List.map_map]
  refine List.map_congr_left fun ⟨row, n⟩ hmem => ?_
  have hlen : (Decimal.naturalText n :: row.map Cell.render).length = ("" :: t.columns).length :=
    length_of_mem_written h (List.mem_map.mpr ⟨(row, n), hmem, rfl⟩)
  -- the number stands under the name of the index, the other texts under their own names
  dsimp only [Function.comp, Prod.map, id]
  rw [Csv.filled_of_length hlen, List.zipWith_cons_cons, Cell.ofText_naturalText,
    List.zipWith_map_right]

/-- **Every well-formed table comes back from its text**, though perhaps under other names. -/
theorem ofCsv_renamed (hs : settings.fault? = none) (h : t.WellFormed) :
    ∃ out, t.toCsv settings = .ok out ∧
      ofCsv settings out = .ok (if settings.detectIndexColumn
        then t.renamed.reread settings.nestedColumn
        else (t.renamed.reread settings.nestedColumn).indexed) := by
  obtain ⟨out, hout, hmark, hreads⟩ := toCsv_reads hs h
  refine ⟨out, hout, ?_⟩
  have hreads' : Csv.Reads settings.delimiterByte (Text.utf8 (Csv.dropMark out)) t.written := by
    rw [hmark]
    exact hreads
  refine (ofCsv_eq_ok_iff hreads').mpr ⟨fun texts htexts => ?_, ?_⟩
  · exact Nat.le_of_eq (length_of_mem_written h htexts)
  · rw [described_written settings h, dropIndex_indexed]

/-- **It comes back under its own names** if they are told apart from the one of the index. -/
theorem ofCsv_of_written (hs : settings.fault? = none) (h : t.WellFormed) (hblank : "" ∉ t.columns)
    (hfree : Header.unnamed 0 ∉ t.columns) :
    ∃ out, t.toCsv settings = .ok out ∧
      ofCsv settings out = .ok (if settings.detectIndexColumn
        then t.reread settings.nestedColumn else (t.reread settings.nestedColumn).indexed) := by
  obtain ⟨out, hout, hback⟩ := ofCsv_renamed hs h
  rw [renamed_eq_self h hblank hfree] at hback
  exact ⟨out, hout, hback⟩

/-- **A table that is built comes back from its text.** It has no blank name, so all that is asked
for is that none of its columns is called like the index. -/
theorem ofCsv_toCsv (hs : settings.fault? = none) (h : t.Built)
    (hfree : Header.unnamed 0 ∉ t.columns) :
    ∃ out, t.toCsv settings = .ok out ∧
      ofCsv settings out = .ok (if settings.detectIndexColumn
        then t.reread settings.nestedColumn else (t.reread settings.nestedColumn).indexed) := by
  have hwell : t.WellFormed := h.wellFormed
  have hblank : "" ∉ t.columns := h.blank_not_mem
  exact ofCsv_of_written hs hwell hblank hfree

/-- A delimiter that is a digit, marks of the format in a text, and a record that is read as one. -/
theorem ofCsv_toCsv_digit_delimiter :
    let settings : Settings := { csvDelimiter := '1', lineTerminator := "\r\n" }
    let t : Table :=
      { columns := ["a", "More", "Unnamed: 2"]
        rows := [
          [.text "1\"\r\n", .record [("k", .string "<b>")], .plain (.bool true)],
          [.markup "<b>", .text "\ufeff", .empty]] }
    settings.fault? = none ∧ t.Built ∧ Header.unnamed 0 ∉ t.columns ∧
      ∃ out, t.toCsv settings = .ok out ∧ ofCsv settings out = .ok
        { columns := ["a", "More", "Unnamed: 2"]
          rows := [
            [.text "1\"\r\n", .record [("k", .string "<b>")], .text "True"],
            [.markup "<b>", .text "\ufeff", .empty]] } := by
  intro settings t
  have hs : settings.fault? = none := by decide
  have hfirst : (ofHeaders ["a", "More", ""]).push?
      [.text "1\"\r\n", .record [("k", .string "<b>")], .plain (.bool true)]
        = some { t with rows := t.rows.take 1 } := by decide
  have hsecond : ({ t with rows := t.rows.take 1 } : Table).push?
      [.markup "<b>", .text "\ufeff"] = some t := by decide
  have ht : t.Built := .push (.push (.ofHeaders _) hfirst) hsecond
  have hfree : Header.unnamed 0 ∉ t.columns := by decide
  obtain ⟨out, hout, hback⟩ := ofCsv_toCsv hs ht hfree
  refine ⟨hs, ht, hfree, out, hout, hback.trans ?_⟩
  have hreread : t.reread "More" =
      { columns := ["a", "More", "Unnamed: 2"]
        rows := [
          [.text "1\"\r\n", .record [("k", .string "<b>")], .text "True"],
          [.markup "<b>", .text "\ufeff", .empty]] } := by
    decide +kernel
  exact congrArg Except.ok hreread

end Table

end TidyTable
