import TidyTable.Export
import TidyTable.Proofs.Ordinals
import TidyTable.Proofs.Writing

/-!
# What processing keeps

Processing a text gives a text again, and this file says what of the first is found in the second.
Every row of the table comes back under its number. Behind the number stand the texts of all columns
but the nested one, in their order and each as it was, unless it is markup and was reduced. Only
then come the values that flattening took out of the nested column.

The argument follows a cell. It was made from one text of a record, filled up and with the index
dropped (`Originals`). Cleaning looks at that cell alone, flattening takes the nested column out of
the header and the rows at the same place (`others`), and writing adds the number.
-/

namespace TidyTable

open Text (Bytes)

/-! ## Where the cells come from -/

namespace Csv

/-- The texts that the cells of a table were read from: those of the records, filled up with empty
ones, and without the first of each if there was an index that was dropped. -/
inductive Originals (settings : Settings) (content : String) (t : Table) :
    List (List String) → Prop where
  | whole {header : List String} {rows : List (List String)} :
      Reads settings.delimiterByte (Text.utf8 (dropMark content)) (header :: rows) →
      Header.normalize header = t.columns →
      Originals settings content t (rows.map (filled header.length))
  | unindexed {header : List String} {rows : List (List String)} :
      settings.detectIndexColumn = true →
      Reads settings.delimiterByte (Text.utf8 (dropMark content)) (header :: rows) →
      Header.normalize header = Header.unnamed 0 :: t.columns →
      Originals settings content t (rows.map fun texts => (filled header.length texts).tail)

end Csv

namespace Table

variable {settings : Settings} {content : String} {t : Table}

/-- A table that is read is described by its names and by the texts that it was read from. -/
theorem exists_originals (hs : settings.fault? = none) (hok : ofCsv settings content = .ok t) :
    ∃ texts, Csv.Originals settings content t texts ∧
      t = ofTexts settings.nestedColumn t.columns texts ∧
      ∀ original ∈ texts, original.length = t.columns.length := by
  obtain ⟨header, rows, hreads⟩ := exists_header_of_ofCsv hs hok
  obtain ⟨hfit, ht⟩ := (ofCsv_eq_ok_iff hreads).mp hok
  have hlen : ∀ texts ∈ rows,
      (Csv.filled header.length texts).length = (Header.normalize header).length := by
    intro texts htexts
    rw [Csv.length_filled (hfit texts htexts), Header.length_normalize]
  by_cases hdrop : settings.detectIndexColumn = true ∧
      (Csv.described settings header rows).hasIndex = true
  · -- the index is gone, and with it the first text of each row
    obtain ⟨hdetect, hindex⟩ := hdrop
    rw [if_pos hdetect, dropIndex, if_pos hindex] at ht
    have hhead : Header.normalize header = Header.unnamed 0 :: t.columns := by
      rw [ht]
      exact columns_of_hasIndex hindex
    unfold Csv.described at ht
    rw [eraseColumn_ofTexts, List.map_map] at ht
    subst ht
    refine ⟨_, .unindexed hdetect hreads hhead, rfl, fun original horiginal => ?_⟩
    obtain ⟨texts, htexts, rfl⟩ := List.mem_map.mp horiginal
    show (Csv.filled header.length texts).tail.length = (Header.normalize header).tail.length
    rw [List.length_tail, List.length_tail, hlen texts htexts]
  · have ht' : t = Csv.described settings header rows := by
      rw [ht]
      split
      · rename_i hdetect
        exact if_neg fun hindex => hdrop ⟨hdetect, hindex⟩
      · rfl
    subst ht'
    refine ⟨_, .whole hreads rfl, rfl, fun original horiginal => ?_⟩
    obtain ⟨texts, htexts, rfl⟩ := List.mem_map.mp horiginal
    exact hlen texts htexts

/-! ## The other columns -/

variable {α β : Type} {nested : String} {columns : List String}

/-- What stands in the columns that are not the nested one. -/
def others (nested : String) (columns : List String) (xs : List α) : List α :=
  ((columns.zip xs).filter (·.1 ≠ nested)).map Prod.snd

theorem others_cons (nested name : String) (columns : List String) (x : α) (xs : List α) :
    others nested (name :: columns) (x :: xs)
      = if name = nested then others nested columns xs else x :: others nested columns xs := by
  unfold others
  rw [List.zip_cons_cons]
  by_cases h : name = nested
  · rw [if_pos h, List.filter_cons_of_neg (by simpa using h)]
  · rw [if_neg h, List.filter_cons_of_pos (by simpa using h), List.map_cons]

@[simp] theorem others_map (nested : String) (columns : List String) (f : α → β) (xs : List α) :
    others nested columns (xs.map f) = (others nested columns xs).map f := by
  induction columns generalizing xs with
  | nil => rfl
  | cons name columns ih =>
    cases xs with
    | nil => rfl
    | cons x xs =>
      rw [List.map_cons, others_cons, others_cons, ih]
      by_cases h : name = nested
      · rw [if_pos h, if_pos h]
      · rw [if_neg h, if_neg h, List.map_cons]

/-- Without a nested column these are all columns. -/
theorem others_of_not_mem (h : nested ∉ columns) {xs : List α}
    (hlen : xs.length = columns.length) : others nested columns xs = xs := by
  unfold others
  rw [List.filter_eq_self.mpr fun pair hpair => ?_]
  · exact List.map_snd_zip (Nat.le_of_eq hlen)
  · have hname := (List.of_mem_zip hpair).1
    simpa using fun e : pair.1 = nested => h (e ▸ hname)

/-- Names are distinct, so leaving out the name is leaving out the place. -/
theorem others_eq_eraseIdx (hn : columns.Nodup) {k : Nat} (hk : columns[k]? = some nested)
    {xs : List α} (hlen : xs.length = columns.length) :
    others nested columns xs = xs.eraseIdx k := by
  induction columns generalizing k xs with
  | nil => exact absurd hk nofun
  | cons name columns ih =>
    obtain ⟨hnot, hrest⟩ := List.nodup_cons.mp hn
    obtain ⟨x, xs, rfl⟩ := List.exists_cons_of_length_eq_add_one hlen
    have hlen' : xs.length = columns.length := by simpa using hlen
    rw [others_cons]
    cases k with
    | zero =>
      -- the name stands here and nowhere behind
      obtain rfl : name = nested := Option.some.inj hk
      rw [if_pos rfl, List.eraseIdx_cons_zero, others_of_not_mem hnot hlen']
    | succ k =>
      have hk' : columns[k]? = some nested := hk
      have hne : name ≠ nested := fun e => hnot (e ▸ List.mem_of_getElem? hk')
      rw [if_neg hne, List.eraseIdx_cons_succ, ih hrest hk' hlen']

/-- Flattening keeps the other columns, and what it adds stands behind them. -/
theorem exists_flatten_eq (nested separator : String) (h : t.WellFormed) :
    ∃ (paths : List String) (values : Row → List Cell),
      (∀ row, (values row).length = paths.length) ∧
      t.flatten nested separator =
        { columns := others nested t.columns t.columns ++ paths
          rows := t.rows.map fun row => others nested t.columns row ++ values row } := by
  rcases flatten_cases nested separator t with ⟨hnot, hflat⟩ | ⟨k, hname, hflat⟩
  · refine ⟨[], fun _ => [], fun _ => rfl, ?_⟩
    rw [hflat, others_of_not_mem hnot rfl, List.append_nil]
    have hrows : t.rows.map (fun row => others nested t.columns row ++ []) = t.rows := by
      refine (List.map_congr_left fun row hrow => ?_).trans (List.map_id t.rows)
      rw [List.append_nil, others_of_not_mem hnot (h.length_row row hrow)]
      rfl
    rw [hrows]
  · refine ⟨t.newPaths separator k, fun row => (t.newPaths separator k).map fun path =>
      .plain ((lastOn path (entriesOf separator k row)).getD .empty),
      fun row => List.length_map _, ?_⟩
    rw [hflat, others_eq_eraseIdx h.nodup_columns hname rfl]
    unfold flattened
    congr 1
    refine List.map_congr_left fun row hrow => ?_
    rw [others_eq_eraseIdx h.nodup_columns hname (h.length_row row hrow)]

end Table

/-! ## Cleaning -/

namespace Cleaner

/-- What is written for a text: markup is reduced, every other text stays as it is. -/
def Writes (c : Cleaner) (original written : String) : Prop :=
  if Cell.looksLikeMarkup original then c.extract? original = some written
  else written = original

/-- A cell outside the nested column is written as its text demands. -/
theorem writes_clean (c : Cleaner) (original : String) :
    c.Writes original (c.clean (Cell.ofText false original)).render := by
  unfold Writes Cell.ofText
  by_cases hempty : original.isEmpty = true
  · obtain rfl := String.isEmpty_iff.mp hempty
    rfl
  · rw [if_neg hempty]
    by_cases hmarkup : Cell.looksLikeMarkup original = true
    · have hextract : c.extract? original
          = some (c.reduce (Html.Document.ofFragment original.toList)) := if_pos hmarkup
      rw [if_pos hmarkup, if_neg Bool.false_ne_true, if_pos hmarkup, hextract]
      show _ = some ((c.extract? original).getD original)
      rw [hextract, Option.getD_some]
    · rw [if_neg hmarkup, if_neg Bool.false_ne_true, if_neg hmarkup]
      rfl

/-- So are all cells of a row, the nested one left out. -/
theorem writes_others (c : Cleaner) (nested : String) {columns original : List String}
    (hlen : original.length = columns.length) :
    List.Forall₂ c.Writes (Table.others nested columns original)
      (Table.others nested columns (columns.zipWith (fun name text =>
        (c.clean (Cell.ofText (name == nested) text)).render) original)) := by
  induction columns generalizing original with
  | nil => exact List.Forall₂.nil
  | cons name columns ih =>
    obtain ⟨x, xs, rfl⟩ := List.exists_cons_of_length_eq_add_one hlen
    have hrest := @ih xs (by simpa using hlen)
    rw [List.zipWith_cons_cons, Table.others_cons, Table.others_cons]
    by_cases h : name = nested
    · rw [if_pos h, if_pos h]
      exact hrest
    · rw [if_neg h, if_neg h, beq_false_of_ne h]
      exact List.Forall₂.cons (c.writes_clean x) hrest

end Cleaner

/-! ## Processing -/

namespace Processor

variable {settings : Settings} {p : Processor} {s : String} {out : Payload}

/-- A processor is made from valid settings and keeps them. -/
theorem settings_of_ofSettings (hp : ofSettings settings = .ok p) :
    p.settings = settings ∧ settings.fault? = none := by
  unfold ofSettings at hp
  cases hfault : settings.fault? with
  | some fault => rw [hfault] at hp; exact absurd hp nofun
  | none =>
    rw [hfault] at hp
    dsimp only at hp
    split at hp
    · exact ⟨(Except.ok.inj hp) ▸ rfl, rfl⟩
    · exact absurd hp nofun

/-- The processor for settings of which nothing was chosen. -/
def standard : Processor where
  settings := {}
  cleaner :=
    { marker := .named "div"
      typeAttribute := "data-info-type"
      typeValue := "show_params"
      valueAttribute := "data-info" }

/-- There is one, because these settings are valid and their selector can be read. -/
theorem ofSettings_standard : ofSettings {} = .ok standard := by
  have hvalid : Settings.fault? {} = none := by decide
  have hcleaner : Cleaner.ofSettings? {} = some standard.cleaner := by decide +kernel
  simp only [ofSettings, hvalid, hcleaner]
  rfl

theorem processCsv_eq_ok_iff {content : String} : p.processCsv s = .ok content ↔
    ∃ t, Table.ofCsv p.settings s = .ok t ∧ (p.processTable t).toCsv p.settings = .ok content :=
  bind_eq_ok_iff

/-- A text with a table is read, cleaned up and written. -/
theorem process_text_eq_ok_iff (hs : s ≠ Payload.emptyCsv) :
    p.process .csv (.text s) = .ok out ↔ ∃ content t, out = .text content ∧
      Table.ofCsv p.settings s = .ok t ∧ (p.processTable t).toCsv p.settings = .ok content := by
  have hrun : p.process .csv (.text s) = (p.processCsv s).map .text := by
    unfold process
    exact if_neg (by simpa using hs)
  rw [hrun, map_eq_ok_iff]
  simp only [processCsv_eq_ok_iff, exists_and_left]

/-- **What a row is written as.** Behind its number stand the texts that it was read from, the
nested one left out and markup reduced, and behind them as many values as there are paths. -/
theorem exists_record (p : Processor) {t : Table} {originals : List (List String)}
    (ht : t = Table.ofTexts p.settings.nestedColumn t.columns originals)
    (hlen : ∀ original ∈ originals, original.length = t.columns.length)
    {paths : List String} {values : Row → List Cell}
    (hvalues : ∀ row, (values row).length = paths.length)
    (hrows : (p.processTable t).rows = (t.rows.map p.processRow).map fun row =>
      Table.others p.settings.nestedColumn t.columns row ++ values row)
    {n : Nat} {record original : List String}
    (hrecord : ((p.processTable t).rows.zipIdx.map fun (row, n) =>
      Decimal.naturalText n :: row.map Cell.render)[n]? = some record)
    (horiginal : originals[n]? = some original) :
    ∃ kept added, record = Decimal.naturalText n :: (kept ++ added) ∧
      added.length = paths.length ∧
      List.Forall₂ p.cleaner.Writes
        (Table.others p.settings.nestedColumn t.columns original) kept := by
  -- the row at `n` was read from the texts at `n`
  have hrow : t.rows[n]? = some (t.columns.zipWith
      (fun name text => Cell.ofText (name == p.settings.nestedColumn) text) original) := by
    rw [ht]
    show (originals.map _)[n]? = _
    rw [List.getElem?_map, horiginal]
    rfl
  rw [hrows, List.getElem?_map, List.getElem?_zipIdx, List.getElem?_map, List.getElem?_map, hrow,
    Nat.zero_add] at hrecord
  obtain rfl := Option.some.inj hrecord
  refine ⟨_, _, congrArg _ List.map_append, ?_, ?_⟩
  · rw [List.length_map, hvalues]
  · have hwrites := p.cleaner.writes_others p.settings.nestedColumn
      (hlen original (List.mem_of_getElem? horiginal))
    rw [← Table.others_map]
    unfold processRow Cleaner.cleanRow
    rw [List.map_map, List.map_zipWith]
    exact hwrites

/-- **Processing keeps the table.** The text that comes out has a header and one record for each row
of the table that was read, in its order. Each record is the number of its row, then the texts of
all columns but the nested one, and only then the values of the flattened columns. -/
theorem process_text_keeps (hp : ofSettings settings = .ok p) (hs : s ≠ Payload.emptyCsv)
    (h : p.process .csv (.text s) = .ok out) :
    ∃ content t originals paths records,
      out = .text content ∧ Table.ofCsv settings s = .ok t ∧
      Csv.Originals settings s t originals ∧ originals.length = t.rows.length ∧
      Csv.Reads settings.delimiterByte (Text.utf8 content)
        (("" :: (Table.others settings.nestedColumn t.columns t.columns ++ paths)) :: records) ∧
      records.length = t.rows.length ∧
      ∀ n record original, records[n]? = some record → originals[n]? = some original →
        ∃ kept added, record = Decimal.naturalText n :: (kept ++ added) ∧
          added.length = paths.length ∧
          List.Forall₂ p.cleaner.Writes
            (Table.others settings.nestedColumn t.columns original) kept := by
  obtain ⟨rfl, hvalid⟩ := settings_of_ofSettings hp
  obtain ⟨content, t, rfl, hread, hwrite⟩ := (process_text_eq_ok_iff hs).mp h
  have hwell := Table.wellFormed_of_ofCsv hvalid hread
  obtain ⟨originals, horiginals, ht, hlen⟩ := Table.exists_originals hvalid hread
  -- what is known to be written for the table is what came out
  obtain ⟨content', hwrite', _, hreads⟩ := Table.toCsv_reads hvalid (hwell.process p)
  obtain rfl := Except.ok.inj (hwrite.symm.trans hwrite')
  obtain ⟨paths, values, hvalues, hflat⟩ := Table.exists_flatten_eq p.settings.nestedColumn
    p.settings.keySeparator (hwell.mapRows (f := p.processRow) fun _ => List.length_map _)
  have hcolumns : (p.processTable t).columns
      = Table.others p.settings.nestedColumn t.columns t.columns ++ paths :=
    congrArg Table.columns hflat
  have hrows : (p.processTable t).rows = (t.rows.map p.processRow).map fun row =>
      Table.others p.settings.nestedColumn t.columns row ++ values row :=
    congrArg Table.rows hflat
  refine ⟨content, t, originals, paths, _, rfl, hread, horiginals, ?_, hcolumns ▸ hreads, ?_,
    fun n record original hrecord horiginal =>
      p.exists_record ht hlen hvalues hrows hrecord horiginal⟩
  · rw [ht]
    exact (List.length_map _).symm
  · rw [List.length_map, List.length_zipIdx, hrows, List.length_map]
    exact List.length_map _

/-- An index that is dropped, a record between two other columns, a delimiter in a text, markup that
is reduced, and a short row. -/
theorem process_text_keeps_around_record :
    let s := ",name,More,note\n0,\"a,b\",\"\x7b\"\"k\"\":\"\"v\"\"\x7d\",<b>c</b>\n1,<d,x\n"
    let out := ",name,note,k\n0,\"a,b\",c,v\n1,<d,,\n"
    ofSettings {} = .ok standard ∧ s ≠ Payload.emptyCsv ∧
      standard.process .csv (.text s) = .ok (.text out) ∧
      ∃ content t originals paths records,
        Payload.text out = .text content ∧ Table.ofCsv {} s = .ok t ∧
        Csv.Originals {} s t originals ∧ originals.length = t.rows.length ∧
        Csv.Reads 0x2c (Text.utf8 content)
          (("" :: (Table.others "More" t.columns t.columns ++ paths)) :: records) ∧
        records.length = t.rows.length ∧
        ∀ n record original, records[n]? = some record → originals[n]? = some original →
          ∃ kept added, record = Decimal.naturalText n :: (kept ++ added) ∧
            added.length = paths.length ∧
            List.Forall₂ standard.cleaner.Writes
              (Table.others "More" t.columns original) kept := by
  intro s out
  have hs : s ≠ Payload.emptyCsv := by decide
  have hread : Table.ofCsv {} s = .ok
      { columns := ["name", "More", "note"]
        rows := [
          [.text "a,b", .record [("k", .string "v")], .markup "<b>c</b>"],
          [.text "<d", .text "x", .empty]] } := by decide +kernel
  have hclean : standard.processTable
      { columns := ["name", "More", "note"]
        rows := [
          [.text "a,b", .record [("k", .string "v")], .markup "<b>c</b>"],
          [.text "<d", .text "x", .empty]] }
      = { columns := ["name", "note", "k"]
          rows := [[.text "a,b", .text "c", .text "v"], [.text "<d", .empty, .empty]] } := by
    decide +kernel
  have hwrite : Table.toCsv {}
      { columns := ["name", "note", "k"]
        rows := [[.text "a,b", .text "c", .text "v"], [.text "<d", .empty, .empty]] }
      = .ok out := by decide +kernel
  have hprocess : standard.process .csv (.text s) = .ok (.text out) :=
    (process_text_eq_ok_iff hs).mpr
      ⟨out, _, rfl, hread, (congrArg (Table.toCsv {}) hclean).trans hwrite⟩
  exact ⟨ofSettings_standard, hs, hprocess, process_text_keeps ofSettings_standard hs hprocess⟩

end Processor

end TidyTable
