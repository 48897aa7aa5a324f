import TidyTable.Proofs.Passes

/-!
# Headers pass after pass

A table is written below its names, with a blank name in front for the row index. When it is read
again the blank name is called like an index, before any other column is named, and the index is
dropped. So the names come back and the header of the next pass is the same, if no name has to give
way to the one of the index.

Such a name can be there. A first column with a blank header that does not count the rows is called
like an index and stays, and a header may say so itself. This column gets a number behind its name
in the next pass, and the header is another one. As long as no column is nested, that is the only
way in which a header changes.
-/

namespace TidyTable

namespace Csv

/-- The fields of the first record of a text. -/
def headerOf (settings : Settings) (content : String) : Option (List Text.Bytes) :=
  (recordsOf settings content).head?.map Record.fields

end Csv

namespace Table

variable {settings : Settings} {t u : Table} {content out again : String}

theorem headerOf_toCsv (hs : settings.fault? = none) (h : t.WellFormed)
    (hwrite : t.toCsv settings = .ok out) :
    Csv.headerOf settings out = some (("" :: t.columns).map Text.utf8) := by
  obtain ⟨out', hwrite', hmark, hreads⟩ := toCsv_reads hs h
  obtain rfl := Except.ok.inj (hwrite.symm.trans hwrite')
  have hfields : (Csv.recordsOf settings out).map Csv.Record.fields
      = t.written.map (·.map Text.utf8) := by
    unfold Csv.recordsOf
    rw [hmark]
    exact hreads
  unfold Csv.headerOf
  rw [← List.head?_map, hfields]
  rfl

theorem headerOf_eq_iff (hs : settings.fault? = none) (ht : t.WellFormed) (hu : u.WellFormed)
    (hout : t.toCsv settings = .ok out) (hagain : u.toCsv settings = .ok again) :
    Csv.headerOf settings again = Csv.headerOf settings out ↔ u.columns = t.columns := by
  rw [headerOf_toCsv hs ht hout, headerOf_toCsv hs hu hagain, Option.some_inj,
    List.map_inj_right fun _ _ h => Text.utf8_injective h, List.cons_inj_right]

/-- No name that is read from a text is blank. -/
theorem blank_not_mem_of_ofCsv (hs : settings.fault? = none)
    (hread : ofCsv settings content = .ok t) : "" ∉ t.columns := by
  obtain ⟨texts, horiginals, _, _⟩ := exists_originals hs hread
  intro hmem
  cases horiginals with
  | whole _ hnames => exact Header.normalize_ne_empty (hnames ▸ hmem) rfl
  | unindexed _ _ hnames =>
    exact Header.normalize_ne_empty (hnames ▸ List.mem_cons_of_mem _ hmem) rfl

theorem unnamed_not_mem_renamed (t : Table) : Header.unnamed 0 ∉ t.renamed.columns := by
  have hnodup := Header.nodup_normalize ("" :: t.columns)
  rw [normalize_blank_columns] at hnodup
  exact (List.nodup_cons.mp hnodup).1

end Table

namespace Processor

variable {settings : Settings} {p : Processor} {t : Table} {s out : String}

/-- Without a nested column no name is changed by cleaning up. -/
theorem columns_processTable (p : Processor) (h : p.settings.nestedColumn ∉ t.columns) :
    (p.processTable t).columns = t.columns := by
  have hnested : p.settings.nestedColumn ∉ (t.mapRows p.processRow).columns := h
  unfold processTable flatten
  rw [Table.flatten_of_not_mem _ hnested]
  rfl

namespace Pass

variable {pass next : Pass p}
variable (hvalid : p.settings.fault? = none) (hdetect : p.settings.detectIndexColumn = true)
include hvalid hdetect

theorem columns_of_follows (h : next.input = pass.output) :
    next.table.columns = pass.written.renamed.columns := by
  rw [table_of_follows hvalid hdetect h]
  rfl

/-- Nothing is renamed where no column is called like the index. -/
theorem columns_of_unnamed_not_mem (h : next.input = pass.output)
    (hnested : p.settings.nestedColumn ∉ pass.table.columns)
    (hfree : Header.unnamed 0 ∉ pass.table.columns) :
    next.written.columns = pass.written.columns := by
  have hcolumns : pass.written.columns = pass.table.columns := columns_processTable p hnested
  have hblank : "" ∉ pass.written.columns := by
    rw [hcolumns]
    exact Table.blank_not_mem_of_ofCsv hvalid pass.reads
  have hkept : pass.written.renamed = pass.written :=
    Table.renamed_eq_self (pass.wellFormed_written hvalid) hblank (hcolumns ▸ hfree)
  have hread : next.table.columns = pass.written.columns := by
    rw [columns_of_follows hvalid hdetect h, hkept]
  have hstays : p.settings.nestedColumn ∉ next.table.columns := by
    rw [hread, hcolumns]
    exact hnested
  exact (columns_processTable p hstays).trans hread

/-- Behind the index nothing is called like it, so what was called so before is not any more. -/
theorem columns_of_unnamed_mem (h : next.input = pass.output)
    (hnested : p.settings.nestedColumn ∉ next.table.columns)
    (hmem : Header.unnamed 0 ∈ pass.written.columns) :
    next.written.columns ≠ pass.written.columns := by
  intro hsame
  have hcolumns : next.written.columns = pass.written.renamed.columns :=
    (columns_processTable p hnested).trans (columns_of_follows hvalid hdetect h)
  rw [← hsame, hcolumns] at hmem
  exact Table.unnamed_not_mem_renamed pass.written hmem

end Pass

/-- **The next header is the same** if no column is called like the index. If one is, the next
header is another, unless a column gets the name of the nested one on the way. -/
theorem process_text_header_again (hp : ofSettings settings = .ok p)
    (hdetect : settings.detectIndexColumn = true) (hread : Table.ofCsv settings s = .ok t)
    (hnested : settings.nestedColumn ∉ t.columns)
    (h : p.process .csv (.text s) = .ok (.text out)) :
    ∃ u again, Table.ofCsv settings out = .ok u ∧ p.process .csv (.text out) = .ok (.text again) ∧
      (Header.unnamed 0 ∉ t.columns → Csv.headerOf settings again = Csv.headerOf settings out) ∧
      (Header.unnamed 0 ∈ t.columns → settings.nestedColumn ∉ u.columns →
        Csv.headerOf settings again ≠ Csv.headerOf settings out) := by
  obtain ⟨rfl, hvalid⟩ := settings_of_ofSettings hp
  have hs : s ≠ Payload.emptyCsv := by
    rintro rfl
    exact absurd hread nofun
  obtain ⟨pass, rfl, hout⟩ := Pass.exists_of_process hs h
  obtain rfl : out = pass.output := by simpa using hout
  obtain rfl : pass.table = t := Except.ok.inj (pass.reads.symm.trans hread)
  obtain ⟨next, hnext⟩ := Pass.exists_next hvalid hdetect pass
  have hheader : Csv.headerOf p.settings next.output = Csv.headerOf p.settings pass.output ↔
      next.written.columns = pass.written.columns :=
    Table.headerOf_eq_iff hvalid (pass.wellFormed_written hvalid)
      (next.wellFormed_written hvalid) pass.writes next.writes
  refine ⟨next.table, next.output, hnext ▸ next.reads, hnext ▸ next.process_input,
    fun hfree => ?_, fun hmem hnested_next => ?_⟩
  · rw [hheader]
    exact Pass.columns_of_unnamed_not_mem hvalid hdetect hnext hnested hfree
  · rw [Ne, hheader]
    have hmem_written : Header.unnamed 0 ∈ pass.written.columns := by
      have hcolumns : pass.written.columns = pass.table.columns := columns_processTable p hnested
      rwa [hcolumns]
    exact Pass.columns_of_unnamed_mem hvalid hdetect hnext hnested_next hmem_written

/-- A name that is there twice, the name it gets then, a blank one, and one that was given for a blank
one in another place. -/
theorem process_text_header_again_repeated :
    let s := "a,a,,Unnamed: 7,a.1\n1,2,3,4,5\n"
    let t : Table :=
      { columns := ["a", "a.1", "Unnamed: 2", "Unnamed: 7", "a.1.1"]
        rows := [[.text "1", .text "2", .text "3", .text "4", .text "5"]] }
    let out := ",a,a.1,Unnamed: 2,Unnamed: 7,a.1.1\n0,1,2,3,4,5\n"
    ofSettings {} = .ok standard ∧ ({} : Settings).detectIndexColumn = true ∧
      Table.ofCsv {} s = .ok t ∧ ({} : Settings).nestedColumn ∉ t.columns ∧
      standard.process .csv (.text s) = .ok (.text out) ∧
      ∃ u again, Table.ofCsv {} out = .ok u ∧
        standard.process .csv (.text out) = .ok (.text again) ∧
        (Header.unnamed 0 ∉ t.columns → Csv.headerOf {} again = Csv.headerOf {} out) ∧
        (Header.unnamed 0 ∈ t.columns → ({} : Settings).nestedColumn ∉ u.columns →
          Csv.headerOf {} again ≠ Csv.headerOf {} out) := by
  intro s t out
  have hread : Table.ofCsv {} s = .ok t := by decide +kernel
  have hnested : ({} : Settings).nestedColumn ∉ t.columns := by decide
  have hclean : standard.processTable t = t := by decide +kernel
  have hwrite : Table.toCsv {} t = .ok out := by decide +kernel
  have hprocess : standard.process .csv (.text s) = .ok (.text out) :=
    (process_text_eq_ok_iff (by decide)).mpr
      ⟨out, t, rfl, hread, (congrArg (Table.toCsv {}) hclean).trans hwrite⟩
  exact ⟨ofSettings_standard, rfl, hread, hnested, hprocess,
    process_text_header_again ofSettings_standard rfl hread hnested hprocess⟩

/-- **A blank name in front that is not the one of an index** is called like it, and gives way to it
in the next pass. -/
theorem process_text_header_again_blank_front :
    let s := ",a\n5,6\n"
    let t : Table := { columns := ["Unnamed: 0", "a"], rows := [[.text "5", .text "6"]] }
    let out := ",Unnamed: 0,a\n0,5,6\n"
    let u : Table := { columns := ["Unnamed: 0.1", "a"], rows := [[.text "5", .text "6"]] }
    let again := ",Unnamed: 0.1,a\n0,5,6\n"
    ofSettings {} = .ok standard ∧ ({} : Settings).detectIndexColumn = true ∧
      Table.ofCsv {} s = .ok t ∧ ({} : Settings).nestedColumn ∉ t.columns ∧
      standard.process .csv (.text s) = .ok (.text out) ∧
      Table.ofCsv {} out = .ok u ∧ standard.process .csv (.text out) = .ok (.text again) ∧
      Csv.headerOf {} again ≠ Csv.headerOf {} out := by
  intro s t out u again
  have hvalid : ({} : Settings).fault? = none := by decide
  have hread : Table.ofCsv {} s = .ok t := by decide +kernel
  have hclean : standard.processTable t = t := by decide +kernel
  have hwrite : Table.toCsv {} t = .ok out := by decide +kernel
  have hprocess : standard.process .csv (.text s) = .ok (.text out) :=
    (process_text_eq_ok_iff (by decide)).mpr
      ⟨out, t, rfl, hread, (congrArg (Table.toCsv {}) hclean).trans hwrite⟩
  have hread_again : Table.ofCsv {} out = .ok u := by decide +kernel
  have hclean_again : standard.processTable u = u := by decide +kernel
  have hwrite_again : Table.toCsv {} u = .ok again := by decide +kernel
  have hprocess_again : standard.process .csv (.text out) = .ok (.text again) :=
    (process_text_eq_ok_iff (by decide)).mpr
      ⟨again, u, rfl, hread_again, (congrArg (Table.toCsv {}) hclean_again).trans hwrite_again⟩
  refine ⟨ofSettings_standard, rfl, hread, by decide, hprocess, hread_again, hprocess_again,
    fun heq => ?_⟩
  have hnames : u.columns = t.columns :=
    (Table.headerOf_eq_iff hvalid (Table.wellFormed_of_ofCsv hvalid hread)
      (Table.wellFormed_of_ofCsv hvalid hread_again) hwrite hwrite_again).mp heq
  exact absurd hnames (by decide)

end Processor

end TidyTable
