import TidyTable.Proofs.Commuting
import TidyTable.Proofs.Decoding
import TidyTable.Proofs.Headers
import TidyTable.Proofs.Sheet.Reprocessing

/-!
# Which names are blank

A table is written behind a column with a blank name, the row index, and this should be the only
one. The names that are read from a header are never blank. But flattening adds names of another
kind, the paths of the records, and nothing is asked of them. A path is the keys that lead to a
value with the separator between them, so it is blank if there is one key and this key is blank.
Then, and only then, a column other than the index is written under a blank name.
-/

namespace TidyTable

/-! ## Paths -/

/-- The separator is not blank, so a path of two keys is not. -/
theorem intercalate_eq_empty_iff {separator : String} (hsep : separator ≠ "") {keys : List String}
    (hkeys : keys ≠ []) : separator.intercalate keys = "" ↔ keys = [""] := by
  cases keys with
  | nil => exact absurd rfl hkeys
  | cons key keys =>
    cases keys with
    | nil => rw [String.intercalate_singleton, List.cons.injEq, and_iff_left rfl]
    | cons next keys =>
      rw [String.intercalate_cons_cons]
      constructor
      · intro h
        have hfront := (String.append_eq_empty_iff.mp h).1
        exact absurd (String.append_eq_empty_iff.mp hfront).2 hsep
      · intro h
        simp at h

namespace Json

/-- No key leads to a value that is no object: it is a leaf itself. -/
theorem nil_mem_walk_iff {j leaf : Json} :
    ([], leaf) ∈ walk j ↔ j = leaf ∧ ∀ inner, leaf ≠ .object inner := by
  cases j with
  | object fields =>
    rw [walk]
    constructor
    · intro h
      exact absurd rfl (keys_ne_nil_of_mem_walkFields h)
    · rintro ⟨rfl, hleaf⟩
      exact absurd rfl (hleaf fields)
  | null | bool _ | number _ | string _ | array _ =>
    simp only [walk, List.mem_singleton, Prod.mk.injEq, true_and]
    constructor
    · rintro rfl
      exact ⟨rfl, nofun⟩
    · intro h
      exact h.1.symm

theorem singleton_mem_walkFields_iff {key : String} {leaf : Json} {fields : List (String × Json)} :
    ([key], leaf) ∈ walkFields fields ↔
      (key, leaf) ∈ fields ∧ ∀ inner, leaf ≠ .object inner := by
  induction fields with
  | nil => simp [walkFields]
  | cons field fields ih =>
    obtain ⟨first, value⟩ := field
    rw [walkFields, List.mem_append, ih, List.mem_cons, or_and_right, List.mem_map]
    refine or_congr_left ?_
    -- behind the first key nothing is left of the path, so its value is the leaf
    constructor
    · rintro ⟨⟨keys, j⟩, hmem, heq⟩
      simp only [Prod.mk.injEq, List.cons.injEq] at heq
      obtain ⟨⟨rfl, rfl⟩, rfl⟩ := heq
      obtain ⟨rfl, hleaf⟩ := nil_mem_walk_iff.mp hmem
      exact ⟨rfl, hleaf⟩
    · rintro ⟨heq, hleaf⟩
      obtain ⟨rfl, rfl⟩ := Prod.mk.inj heq
      exact ⟨([], leaf), nil_mem_walk_iff.mpr ⟨rfl, hleaf⟩, rfl⟩

end Json

/-- A record with a value under a blank key. If the value is an object, it is entered, and all paths
through it begin with the separator. -/
def Cell.HasBlankKey (cell : Cell) : Prop :=
  ∃ fields leaf, cell = .record fields ∧ ("", leaf) ∈ fields ∧ ∀ inner, leaf ≠ .object inner

theorem Cell.blank_mem_paths_iff {separator : String} (hsep : separator ≠ "") (cell : Cell) :
    "" ∈ (cell.entries separator).map Prod.fst ↔ cell.HasBlankKey := by
  unfold HasBlankKey
  cases cell with
  | plain v => simp [entries]
  | markup s => simp [entries]
  | record fields =>
    unfold entries
    rw [List.map_map, List.mem_map]
    constructor
    · rintro ⟨⟨keys, leaf⟩, hmem, hpath⟩
      have hne : keys ≠ [] := Json.keys_ne_nil_of_mem_walkFields hmem
      obtain rfl := (intercalate_eq_empty_iff hsep hne).mp hpath
      exact ⟨fields, leaf, rfl, Json.singleton_mem_walkFields_iff.mp hmem⟩
    · rintro ⟨_, leaf, heq, hleaf⟩
      obtain rfl := Cell.record.inj heq
      have hpath : separator.intercalate [""] = "" := String.intercalate_singleton
      exact ⟨([""], leaf), Json.singleton_mem_walkFields_iff.mpr hleaf, hpath⟩

/-! ## Tables -/

namespace Table

variable {settings : Settings} {t : Table} {w : Workbook}

/-- Some cell of the nested column is a record with a value under a blank key. -/
def HasBlankKey (nested : String) (t : Table) : Prop :=
  ∃ (k : Nat) (row : Row) (cell : Cell),
    t.columns[k]? = some nested ∧ row ∈ t.rows ∧ row[k]? = some cell ∧ cell.HasBlankKey

theorem blank_mem_newPaths_iff {separator : String} (hsep : separator ≠ "") {k : Nat}
    (hblank : "" ∉ t.columns) : "" ∈ t.newPaths separator k ↔
      ∃ (row : Row) (cell : Cell), row ∈ t.rows ∧ row[k]? = some cell ∧ cell.HasBlankKey := by
  have hrest : "" ∉ t.columns.eraseIdx k := fun h => hblank (List.mem_of_mem_eraseIdx h)
  rw [mem_newPaths_iff, and_iff_left hrest]
  constructor
  · rintro ⟨row, hrow, hpath⟩
    unfold entriesOf at hpath
    cases hcell : row[k]? with
    | none => simp [hcell] at hpath
    | some cell =>
      rw [hcell] at hpath
      exact ⟨row, cell, hrow, hcell, (cell.blank_mem_paths_iff hsep).mp hpath⟩
  · rintro ⟨row, cell, hrow, hcell, hkey⟩
    refine ⟨row, hrow, ?_⟩
    unfold entriesOf
    rw [hcell]
    exact (cell.blank_mem_paths_iff hsep).mpr hkey

/-- Cleaning does not count here: it can be done after flattening, and then the names are there. -/
theorem blank_mem_processTable_iff (p : Processor) (hsep : p.settings.keySeparator ≠ "")
    (ht : t.WellFormed) (hblank : "" ∉ t.columns) :
    "" ∈ (p.processTable t).columns ↔ t.HasBlankKey p.settings.nestedColumn := by
  have hcolumns : (p.processTable t).columns
      = (t.flatten p.settings.nestedColumn p.settings.keySeparator).columns := by
    show ((t.mapRows p.cleaner.cleanRow).flatten _ _).columns = _
    rw [flatten_mapRows]
    rfl
  rw [hcolumns]
  rcases flatten_cases p.settings.nestedColumn p.settings.keySeparator t with
    ⟨hnot, hflat⟩ | ⟨k, hname, hflat⟩
  · rw [hflat]
    constructor
    · intro h
      exact absurd h hblank
    · rintro ⟨k, row, cell, hname, -⟩
      exact absurd (List.mem_of_getElem? hname) hnot
  · rw [hflat, flattened, List.mem_append, blank_mem_newPaths_iff hsep hblank]
    constructor
    · rintro (h | ⟨row, cell, hcell⟩)
      · exact absurd (List.mem_of_mem_eraseIdx h) hblank
      · exact ⟨k, row, cell, hname, hcell⟩
    · rintro ⟨i, row, cell, hi, hcell⟩
      -- there is no other nested column
      obtain rfl := ht.place_unique hname hi
      exact Or.inr ⟨row, cell, hcell⟩

theorem blank_not_mem_tableOf (settings : Settings) (g : Grid) :
    "" ∉ (Sheet.tableOf settings g).columns := by
  intro h
  cases g with
  | nil => exact absurd h List.not_mem_nil
  | cons names rows => exact Header.normalize_ne_empty h rfl

/-- No name that is read from a workbook is blank. -/
theorem blank_not_mem_of_ofWorkbook (h : ofWorkbook settings w = .ok t) : "" ∉ t.columns := by
  obtain ⟨_, _, g, _, _, rfl⟩ := exists_of_ofWorkbook h
  have hblank := blank_not_mem_tableOf settings g.used
  split
  · unfold dropIndex
    split
    · exact fun hmem => hblank (List.mem_of_mem_eraseIdx hmem)
    · exact hblank
  · exact hblank

end Table

/-! ## Exports -/

namespace Processor

variable {settings : Settings} {p : Processor} {format : Format} {payload out : Payload} {t : Table}

/-- An export goes through a table: this is read from it, and what comes out is written for it when
it is cleaned up. -/
inductive Through (p : Processor) (t : Table) : Format → Payload → Payload → Prop where
  | text {s content : String} : Table.ofCsv p.settings s = .ok t →
      (p.processTable t).toCsv p.settings = .ok content →
      Through p t .csv (.text s) (.text content)
  | bytes {b : ByteArray} {content : String} : Table.ofCsv p.settings (Text.decode b) = .ok t →
      (p.processTable t).toCsv p.settings = .ok content →
      Through p t .csv (.bytes b) (.bytes content.toUTF8)
  | workbook {w w' : Workbook} : Table.ofWorkbook p.settings w = .ok t →
      (p.processTable t).toWorkbook p.settings = .ok w' →
      Through p t .spreadsheet (.workbook w) (.workbook w')

/-- Whatever is processed goes through a table, unless it is an export without one. -/
theorem exists_through (hne : payload.bytes? ≠ some Payload.emptyCsv.toUTF8)
    (h : p.process format payload = .ok out) : ∃ t, p.Through t format payload out := by
  cases format with
  | csv =>
    cases payload with
    | workbook w => exact absurd h nofun
    | text s =>
      have hs : s ≠ Payload.emptyCsv := fun e => hne (congrArg (some ∘ String.toUTF8) e)
      obtain ⟨content, t, rfl, hread, hwrite⟩ := (process_text_eq_ok_iff hs).mp h
      exact ⟨t, .text hread hwrite⟩
    | bytes b =>
      have hb : b.toList ≠ [0x0a] := fun e =>
        hne (congrArg some (Text.toList_injective (e.trans toList_emptyCsv.symm)))
      rw [process_bytes, if_neg hb, map_eq_ok_iff] at h
      obtain ⟨content, rfl, hcontent⟩ := h
      obtain ⟨t, hread, hwrite⟩ := processCsv_eq_ok_iff.mp hcontent
      exact ⟨t, .bytes hread hwrite⟩
  | spreadsheet =>
    cases payload with
    | text s => exact absurd h nofun
    | bytes b => exact absurd h nofun
    | workbook w =>
      obtain ⟨w', t, rfl, hread, hwrite⟩ := process_workbook_eq_ok_iff.mp h
      exact ⟨t, .workbook hread hwrite⟩

theorem Through.wellFormed (hvalid : p.settings.fault? = none)
    (h : p.Through t format payload out) : t.WellFormed ∧ "" ∉ t.columns := by
  cases h with
  | text hread =>
    exact ⟨Table.wellFormed_of_ofCsv hvalid hread, Table.blank_not_mem_of_ofCsv hvalid hread⟩
  | bytes hread =>
    exact ⟨Table.wellFormed_of_ofCsv hvalid hread, Table.blank_not_mem_of_ofCsv hvalid hread⟩
  | workbook hread =>
    exact ⟨Table.wellFormed_of_ofWorkbook hread, Table.blank_not_mem_of_ofWorkbook hread⟩

/-- **A blank name is written for a blank key and for nothing else.** Whatever the header says, a
column behind the index has a blank name exactly if some record has a value under a blank key. -/
theorem process_blank_name_iff (hp : ofSettings settings = .ok p)
    (hne : payload.bytes? ≠ some Payload.emptyCsv.toUTF8)
    (h : p.process format payload = .ok out) :
    ∃ t, p.Through t format payload out ∧
      ("" ∈ (p.processTable t).columns ↔ t.HasBlankKey settings.nestedColumn) := by
  obtain ⟨rfl, hvalid⟩ := settings_of_ofSettings hp
  have hsep : p.settings.keySeparator ≠ "" := (Settings.fault?_eq_none_iff.mp hvalid).keySeparator
  obtain ⟨t, ht⟩ := exists_through hne h
  obtain ⟨hwell, hblank⟩ := ht.wellFormed hvalid
  exact ⟨t, ht, Table.blank_mem_processTable_iff p hsep hwell hblank⟩

/-- A blank header, and a blank key that leads to an object with another one. -/
theorem process_blank_name_iff_inner_key :
    let s := "A,,More\n1,2,\"\x7b\"\"\"\":\x7b\"\"\"\":3\x7d\x7d\"\n"
    let t : Table :=
      { columns := ["A", "Unnamed: 1", "More"]
        rows := [[.text "1", .text "2",
          .record [("", .object [("", .number (.integer 3))])]]] }
    let out := ",A,Unnamed: 1,.\n0,1,2,3\n"
    ofSettings {} = .ok standard ∧ Table.ofCsv {} s = .ok t ∧
      (Payload.text s).bytes? ≠ some Payload.emptyCsv.toUTF8 ∧
      standard.process .csv (.text s) = .ok (.text out) ∧
      ∃ t, standard.Through t .csv (.text s) (.text out) ∧
        ("" ∈ (standard.processTable t).columns ↔
          t.HasBlankKey ({} : Settings).nestedColumn) := by
  intro s t out
  have hread : Table.ofCsv {} s = .ok t := by decide +kernel
  have hclean : standard.processTable t =
      { columns := ["A", "Unnamed: 1", "."]
        rows := [[.text "1", .text "2", .plain (.int 3)]] } := by
    decide +kernel
  have hwrite : (standard.processTable t).toCsv {} = .ok out := by
    rw [hclean]
    decide +kernel
  have hprocess : standard.process .csv (.text s) = .ok (.text out) :=
    (process_text_eq_ok_iff (by decide)).mpr ⟨out, t, rfl, hread, hwrite⟩
  have hne : (Payload.text s).bytes? ≠ some Payload.emptyCsv.toUTF8 := by decide +kernel
  exact ⟨ofSettings_standard, hread, hne, hprocess,
    process_blank_name_iff ofSettings_standard hne hprocess⟩

/-- **A value under a blank key gets a column with a blank name**, so that the index is not the only
one. -/
theorem process_blank_name_iff_outer_key :
    let s := "A,More\nx,\"\x7b\"\"\"\":1\x7d\"\n"
    let t : Table :=
      { columns := ["A", "More"]
        rows := [[.text "x", .record [("", .number (.integer 1))]]] }
    let out := ",A,\n0,x,1\n"
    ofSettings {} = .ok standard ∧ Table.ofCsv {} s = .ok t ∧
      standard.process .csv (.text s) = .ok (.text out) ∧
      (standard.processTable t).toCsv {} = .ok out ∧
      "" ∈ (standard.processTable t).columns := by
  intro s t out
  have hread : Table.ofCsv {} s = .ok t := by decide +kernel
  have hclean : standard.processTable t =
      { columns := ["A", ""], rows := [[.text "x", .plain (.int 1)]] } := by
    decide +kernel
  have hwrite : (standard.processTable t).toCsv {} = .ok out := by
    rw [hclean]
    decide +kernel
  have hprocess : standard.process .csv (.text s) = .ok (.text out) :=
    (process_text_eq_ok_iff (by decide)).mpr ⟨out, t, rfl, hread, hwrite⟩
  refine ⟨ofSettings_standard, hread, hprocess, hwrite, ?_⟩
  rw [hclean]
  decide

end Processor

end TidyTable
