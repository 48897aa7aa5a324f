import TidyTable.Proofs.Ordinals
import TidyTable.Proofs.Sheet.Reading
import TidyTable.Proofs.Sheet.Writing

/-!
# A table comes back from its sheet

What is written to a sheet is read as the same table, up to the kinds of its cells: `Cell.reopened`
says what each of them comes back as.

The grid that is read is not always the one that was written. The corner above the numbers is blank,
so a table without rows comes back without the column of the numbers, and then there is no index to
be dropped. With rows the numbers keep the blank corner in, which gets the name of an index, and the
doubles under it count the rows. A table without columns is left out here: the row of its names is
blank, and nothing keeps it in.
-/

namespace TidyTable

/-! ## Cells -/

/-- What a cell comes back as when it was written to a sheet. -/
def Cell.reopened (nested : Bool) : Cell → Cell
  | .plain (.text s) | .markup s => .ofText nested s
  | .record fields => .ofText nested fields.text
  | .plain (.int i) => .plain (.float (Decimal.nearest i.toInt))
  | .plain (.float x) =>
    match Decimal.Binary.ofFloat x with
    | .nan => .empty
    | .infinite negative => .text (if negative then "-inf" else "inf")
    | .finite .. => .plain (.float x)
  | .plain (.dateTime x) =>
    match Decimal.Binary.ofFloat x with
    | .nan => .text "NAN"
    | .infinite negative => .text (if negative then "-INF" else "INF")
    | .finite .. => .plain (.dateTime x)
  | .plain value => .plain value

namespace Sheet

variable {settings : Settings} {t : Table} {g : Grid} {cell : Cell} {v : Scalar}

theorem ofScalar_of_text {s : String} (nested : Bool) (h : StoredAs (.text s) v) :
    Cell.ofScalar nested v = Cell.ofText nested s := by
  obtain ⟨_, rfl⟩ := storedAs_text_iff.mp h
  by_cases hs : s.isEmpty = true
  · rw [if_pos hs]
    exact (if_pos hs).symm
  · rw [if_neg hs]
    rfl

theorem ofScalar_number (nested : Bool) (x : Float) :
    Cell.ofScalar nested (number x) = (Cell.plain (.float x)).reopened nested := by
  unfold number Cell.reopened
  dsimp only
  cases Decimal.Binary.ofFloat x with
  | nan => rfl
  | infinite negative => cases negative <;> cases nested <;> rfl
  | finite negative m e => rfl

theorem ofScalar_serial (nested : Bool) (x : Float) :
    Cell.ofScalar nested (serial x) = (Cell.plain (.dateTime x)).reopened nested := by
  unfold serial Cell.reopened
  dsimp only
  cases Decimal.Binary.ofFloat x with
  | nan => cases nested <;> rfl
  | infinite negative => cases negative <;> cases nested <;> rfl
  | finite negative m e => rfl

/-- The value that is written for a cell is read as the cell that comes back. -/
theorem StoredAs.ofScalar_eq_reopened (h : StoredAs cell v) (nested : Bool) :
    Cell.ofScalar nested v = cell.reopened nested := by
  cases cell with
  | markup s => exact ofScalar_of_text (s := s) nested h
  | record fields => exact ofScalar_of_text (s := fields.text) nested h
  | plain value =>
    cases value with
    | text s => exact ofScalar_of_text (s := s) nested h
    | empty => exact Option.some.inj h ▸ rfl
    | int i => exact Option.some.inj h ▸ rfl
    | bool b => exact Option.some.inj h ▸ rfl
    | float x => exact Option.some.inj h ▸ ofScalar_number nested x
    | dateTime x => exact Option.some.inj h ▸ ofScalar_serial nested x

/-! ## The numbers of the rows -/

/-- A double counts a row as long as it has no more digits than a mantissa. -/
theorem isOrdinal_ordinal {n : Nat} (h : n < 2 ^ 53) : (ordinal n).isOrdinal n = true := by
  unfold ordinal Scalar.isOrdinal
  dsimp only
  rw [Decimal.whole?_nearest h]
  have hmin : min n Scalar.maxCount = n := Nat.min_eq_left (by unfold Scalar.maxCount; omega)
  exact beq_iff_eq.mpr hmin

end Sheet

/-! ## Reading what was written -/

namespace Table

variable {settings : Settings} {t : Table} {w : Workbook}

/-- The table with every cell as it comes back. -/
def reopened (nested : String) (t : Table) : Table :=
  { t with
    rows := t.rows.map fun row =>
      t.columns.zipWith (fun name cell => cell.reopened (name == nested)) row }

/-- Without rows only the names are read. -/
theorem used_written_nil (h : t.WellFormed) (hfits : Sheet.Fits t) (hblank : "" ∉ t.columns)
    (hcolumns : t.columns ≠ []) (hrows : t.rows = []) :
    (Sheet.written t).used = [t.columns.map .text] := by
  have hframed := Sheet.framed_written h hfits hblank (Or.inl hcolumns)
  have hnames : Sheet.written t = [.empty :: t.columns.map .text] := by
    rw [Sheet.written_eq hfits hblank, Sheet.writtenRows, hrows]
    rfl
  rw [hnames] at hframed ⊢
  have hblanks := Sheet.blanks_names hcolumns
  have hstart : Grid.start [.empty :: t.columns.map .text] = 1 := by
    show (if Grid.isBlank (.empty :: t.columns.map .text) then _ else min _ _) = 1
    rw [if_neg (by rw [Sheet.isBlank_names hcolumns]; exact Bool.false_ne_true), hframed.width,
      hblanks]
    omega
  rw [hframed.used fun _ => Sheet.isBlank_names hcolumns, hstart]
  rfl

/-- With rows all that was written is read. -/
theorem used_written_cons (h : t.WellFormed) (hfits : Sheet.Fits t) (hblank : "" ∉ t.columns)
    (hcolumns : t.columns ≠ []) (hrows : t.rows ≠ []) :
    (Sheet.written t).used = Sheet.written t := by
  have hframed := Sheet.framed_written h hfits hblank (Or.inl hcolumns)
  obtain ⟨row, rows, hrow⟩ := List.exists_cons_of_length_pos (l := Sheet.writtenRows t)
    (by simpa [List.length_pos_iff] using hrows)
  have hmem : row ∈ Sheet.writtenRows t := by rw [hrow]; exact List.mem_cons_self
  refine hframed.used_eq_self (fun hne => ?_) (List.mem_cons_of_mem _ hmem)
    (Sheet.isBlank_of_mem_writtenRows hmem) (Sheet.blanks_of_mem_writtenRows hmem)
  simp only [Sheet.written_eq hfits hblank, List.head_cons]
  exact Sheet.isBlank_names hcolumns

theorem header_names (names : List String) :
    (names.map Scalar.text).map Sheet.header = names := by
  rw [List.map_map]
  exact List.map_id names

/-- A row is read as its number and the cells that come back. -/
theorem zipWith_entry (nested : String) (hfits : Sheet.Fits t) {row : Row} (hrow : row ∈ t.rows) :
    t.columns.zipWith (fun name v => Cell.ofScalar (name == nested) v) (row.map Sheet.entry)
      = t.columns.zipWith (fun name cell => cell.reopened (name == nested)) row := by
  rw [List.zipWith_map_right]
  refine List.ext_getElem (by simp) fun i hi hi' => ?_
  have hi'' : i < row.length :=
    Nat.lt_of_lt_of_le hi (by rw [List.length_zipWith]; exact Nat.min_le_right _ _)
  rw [List.getElem_zipWith, List.getElem_zipWith]
  exact (hfits.cells row hrow row[i] (List.getElem_mem hi'')).ofScalar_eq_reopened _

/-- With its index in front or without, the table is read from the grid that was written for it. -/
theorem dropIndex_tableOf_written (settings : Settings) (h : t.WellFormed) (hfits : Sheet.Fits t)
    (hrows : t.rows.length < Sheet.maxRows) (hcolumns : t.columns ≠ []) (hblank : "" ∉ t.columns)
    (hfree : Header.unnamed 0 ∉ t.columns) :
    (Sheet.tableOf settings (Sheet.written t).used).dropIndex
      = t.reopened settings.nestedColumn := by
  by_cases hnil : t.rows = []
  · have htable : Sheet.tableOf settings [t.columns.map .text]
        = t.reopened settings.nestedColumn := by
      rw [Sheet.tableOf_cons settings _ fun row hrow => absurd hrow List.not_mem_nil, header_names,
        Header.normalize_eq_self h.nodup_columns hblank, reopened, hnil]
      rfl
    rw [used_written_nil h hfits hblank hcolumns hnil, htable]
    exact dropIndex_of_not_mem hfree
  · have htable : Sheet.tableOf settings (Sheet.written t)
        = (t.reopened settings.nestedColumn).withIndex Sheet.ordinal := by
      rw [Sheet.written_eq hfits hblank, Sheet.tableOf_cons settings _ fun row hrow => by
        rw [Sheet.length_of_mem_writtenRows h hrow, List.length_cons, List.length_map],
        List.map_cons, header_names]
      unfold withIndex reopened Sheet.writtenRows
      have hnames : Header.normalize (Sheet.header .empty :: t.columns)
          = Header.unnamed 0 :: t.columns :=
        Header.normalize_indexed h.nodup_columns hblank hfree
      rw [hnames]
      congr 1
      rw [List.map_map, List.zipIdx_map, List.map_map]
      refine List.map_congr_left fun ⟨row, n⟩ hmem => ?_
      -- the number is a double under any name, the other values stand under their own
      exact congrArg _ (zipWith_entry _ hfits (List.fst_mem_of_mem_zipIdx hmem))
    rw [used_written_cons h hfits hblank hcolumns hnil, htable]
    refine dropIndex_withIndex fun n hn => Sheet.isOrdinal_ordinal ?_
    have hn' : n < t.rows.length := by
      rw [reopened, List.length_map] at hn
      exact hn
    have hmax : Sheet.maxRows < 2 ^ 53 := by decide
    omega

/-- **A well-formed table comes back from its sheet** if it has a column and its names are told
apart from the one of the index. -/
theorem ofWorkbook_of_written (hdetect : settings.detectIndexColumn = true) (h : t.WellFormed)
    (hcolumns : t.columns ≠ []) (hblank : "" ∉ t.columns) (hfree : Header.unnamed 0 ∉ t.columns)
    (hw : t.toWorkbook settings = .ok w) :
    ofWorkbook settings w = .ok (t.reopened settings.nestedColumn) := by
  obtain ⟨hstore, rfl⟩ := Sheet.toWorkbook_eq_ok_iff.mp hw
  have hframed := Sheet.framed_written h hstore.fits hblank (Or.inl hcolumns)
  have hvalues := Sheet.values?_eq_some settings.sheetName
    (Sheet.read_of_mem_written hstore.fits)
  unfold ofWorkbook Sheet.book
  dsimp only
  rw [hframed.fromCorner, hvalues]
  dsimp only
  rw [if_pos hdetect,
    dropIndex_tableOf_written settings h hstore.fits hstore.rows hcolumns hblank hfree]

/-- **A table that is built comes back from its sheet**, each cell as it is reopened, if it has a
column and none is called like the index. -/
theorem ofWorkbook_toWorkbook (hdetect : settings.detectIndexColumn = true) (h : t.Built)
    (hcolumns : t.columns ≠ []) (hfree : Header.unnamed 0 ∉ t.columns)
    (hw : t.toWorkbook settings = .ok w) :
    ofWorkbook settings w = .ok (t.reopened settings.nestedColumn) :=
  ofWorkbook_of_written hdetect h.wellFormed hcolumns h.blank_not_mem hfree hw

/-- A cell of each kind, some of them not written and some written as another kind. -/
theorem ofWorkbook_toWorkbook_each_kind :
    let settings : Settings := {}
    let t : Table :=
      { columns := ["n", "More", "Unnamed: 2"]
        rows := [
          [.plain (.int 3), .record [("k", .string "v")], .plain (.float (-1.0 / 0.0))],
          [.markup "<b>", .plain (.bool true), .plain (.float 2.5)],
          [.text "", .plain (.dateTime 1.5), .plain (.float (0.0 / 0.0))]] }
    settings.detectIndexColumn = true ∧ t.Built ∧ t.columns ≠ [] ∧
      Header.unnamed 0 ∉ t.columns ∧
      ∃ w, t.toWorkbook settings = .ok w ∧ ofWorkbook settings w = .ok
        { columns := ["n", "More", "Unnamed: 2"]
          rows := [
            [.plain (.float 3.0), .record [("k", .string "v")], .text "-inf"],
            [.markup "<b>", .plain (.bool true), .plain (.float 2.5)],
            [.empty, .plain (.dateTime 1.5), .empty]] } := by
  intro settings t
  have hfirst : (ofHeaders ["n", "More", ""]).push?
      [.plain (.int 3), .record [("k", .string "v")], .plain (.float (-1.0 / 0.0))]
        = some { t with rows := t.rows.take 1 } := by decide +kernel
  have hsecond : ({ t with rows := t.rows.take 1 } : Table).push?
      [.markup "<b>", .plain (.bool true), .plain (.float 2.5)]
        = some { t with rows := t.rows.take 2 } := by decide +kernel
  have hthird : ({ t with rows := t.rows.take 2 } : Table).push?
      [.text "", .plain (.dateTime 1.5), .plain (.float (0.0 / 0.0))] = some t := by decide +kernel
  have ht : t.Built := .push (.push (.push (.ofHeaders _) hfirst) hsecond) hthird
  have hcolumns : t.columns ≠ [] := by decide
  have hfree : Header.unnamed 0 ∉ t.columns := by decide
  have hstore : Sheet.Storable settings t :=
    ⟨by decide, by decide, by decide, by decide +kernel, by decide +kernel⟩
  have hw := Sheet.toWorkbook_eq_ok_iff.mpr ⟨hstore, rfl⟩
  refine ⟨rfl, ht, hcolumns, hfree, _, hw, ?_⟩
  have hreopened : t.reopened "More" =
      { columns := ["n", "More", "Unnamed: 2"]
        rows := [
          [.plain (.float 3.0), .record [("k", .string "v")], .text "-inf"],
          [.markup "<b>", .plain (.bool true), .plain (.float 2.5)],
          [.empty, .plain (.dateTime 1.5), .empty]] } := by
    decide +kernel
  exact (ofWorkbook_toWorkbook rfl ht hcolumns hfree hw).trans (congrArg Except.ok hreopened)

end Table

end TidyTable
