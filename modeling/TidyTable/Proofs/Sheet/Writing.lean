import TidyTable.Proofs.Doubles
import TidyTable.Proofs.Invariant
import TidyTable.Proofs.Sheet.Rectangle
import TidyTable.Sheet.Codec

/-!
# What is written to a sheet

A table is written to a sheet if it keeps the limits of one and all its texts fit. `Sheet.written`
is the grid of its values then: the names behind a blank corner, and each row behind its number.

A value that is written is one that can be written again and is read as it is
(`Sheet.StoredAs.again`, `Sheet.StoredAs.read`). The kinds that a sheet does not have are gone: an
integer is a double, an infinite number is a text, an empty text is nothing.

The grid has no blank row or column at its end unless the table is empty. In front it depends on the
shape. Without rows the column of the numbers is blank, and without columns the row of the names is.
-/

namespace TidyTable

variable {α β : Type}

/-- A function that is defined under a condition is so on all elements of a list. -/
theorem mapM_eq_some_iff {f : α → Option β} {fits : α → Prop} {value : α → β}
    (h : ∀ x y, f x = some y ↔ fits x ∧ y = value x) {xs : List α} {ys : List β} :
    xs.mapM f = some ys ↔ (∀ x ∈ xs, fits x) ∧ ys = xs.map value := by
  induction xs generalizing ys with
  | nil =>
    rw [List.mapM_nil, List.map_nil]
    exact ⟨fun h => ⟨nofun, (Option.some.inj h).symm⟩, fun h => by rw [h.2]; rfl⟩
  | cons x xs ih =>
    rw [List.mapM_cons, List.forall_mem_cons, List.map_cons]
    constructor
    · intro hys
      obtain ⟨y, hy, hys⟩ := Option.bind_eq_some_iff.mp hys
      obtain ⟨zs, hzs, hys⟩ := Option.bind_eq_some_iff.mp hys
      obtain ⟨hx, rfl⟩ := (h x y).mp hy
      obtain ⟨hxs, rfl⟩ := ih.mp hzs
      exact ⟨⟨hx, hxs⟩, (Option.some.inj hys).symm⟩
    · rintro ⟨⟨hx, hxs⟩, rfl⟩
      rw [(h x _).mpr ⟨hx, rfl⟩, ih.mpr ⟨hxs, rfl⟩]
      rfl

namespace Sheet

variable {settings : Settings} {t : Table} {w : Workbook} {g : Grid} {cell : Cell} {v : Scalar}
  {name : String}

/-! ## One cell -/

/-- A cell is written as a value. -/
def StoredAs (cell : Cell) (v : Scalar) : Prop := entry? cell = some v

instance (cell : Cell) (v : Scalar) : Decidable (StoredAs cell v) :=
  inferInstanceAs (Decidable (_ = _))

/-- The value that a cell is written as. -/
def entry (cell : Cell) : Scalar := entry? cell |>.getD .empty

theorem storedAs_iff (cell : Cell) (v : Scalar) :
    StoredAs cell v ↔ StoredAs cell (entry cell) ∧ v = entry cell := by
  refine ⟨fun h => ?_, fun h => h.2 ▸ h.1⟩
  have hentry : entry cell = v := by
    unfold entry
    rw [show entry? cell = some v from h, Option.getD_some]
  rw [hentry]
  exact ⟨h, rfl⟩

/-- A text is written unless it is too long, and an empty one as nothing. -/
theorem storedAs_text_iff {s : String} :
    StoredAs (.text s) v ↔ s.length ≤ maxText ∧ v = if s.isEmpty then .empty else .text s := by
  show (if maxText < s.length then none else some _) = some v ↔ _
  by_cases hlen : maxText < s.length
  · rw [if_pos hlen]
    exact ⟨nofun, fun h => absurd hlen (Nat.not_lt.mpr h.1)⟩
  · rw [if_neg hlen, Option.some.injEq]
    exact ⟨fun h => ⟨Nat.not_lt.mp hlen, h.symm⟩, fun h => h.2.symm⟩

/-- What a number is written as. -/
theorem number_cases (x : Float) : number x = .empty ∨
    (∃ negative, number x = infinite negative "inf") ∨ number x = .float x := by
  unfold number
  cases Decimal.Binary.ofFloat x with
  | nan => exact Or.inl rfl
  | infinite negative => exact Or.inr (Or.inl ⟨negative, rfl⟩)
  | finite negative m e => exact Or.inr (Or.inr rfl)

/-- What a serial number is written as. -/
theorem serial_cases (x : Float) : serial x = .text "NAN" ∨
    (∃ negative, serial x = infinite negative "INF") ∨ serial x = .dateTime x := by
  unfold serial
  cases Decimal.Binary.ofFloat x with
  | nan => exact Or.inl rfl
  | infinite negative => exact Or.inr (Or.inl ⟨negative, rfl⟩)
  | finite negative m e => exact Or.inr (Or.inr rfl)

/-- The double that is written for an integer is finite. -/
theorem number_nearest (i : Int64) :
    number (Decimal.nearest i.toInt) = .float (Decimal.nearest i.toInt) := by
  have hlo := i.le_toInt
  have hhi := i.toInt_lt
  have hfinite := Decimal.isFinite_nearest (i := i.toInt) (by omega)
  unfold number
  cases hx : Decimal.Binary.ofFloat (Decimal.nearest i.toInt) with
  | nan => rw [hx] at hfinite; exact absurd hfinite Bool.false_ne_true
  | infinite negative => rw [hx] at hfinite; exact absurd hfinite Bool.false_ne_true
  | finite negative m e => rfl

theorem storedAs_number (x : Float) : StoredAs (.plain (number x)) (number x) := by
  rcases number_cases x with hnumber | ⟨negative, hnumber⟩ | hnumber <;> rw [hnumber]
  · rfl
  · cases negative <;> decide
  · exact congrArg some hnumber

theorem storedAs_serial (x : Float) : StoredAs (.plain (serial x)) (serial x) := by
  rcases serial_cases x with hserial | ⟨negative, hserial⟩ | hserial <;> rw [hserial]
  · decide
  · cases negative <;> decide
  · exact congrArg some hserial

theorem storedAs_of_text {s : String} (h : StoredAs (.text s) v) : StoredAs (.plain v) v := by
  obtain ⟨_, rfl⟩ := storedAs_text_iff.mp h
  by_cases hs : s.isEmpty = true
  · rw [if_pos hs]
    rfl
  · rw [if_neg hs] at h ⊢
    exact h

namespace StoredAs

/-- **A value that is written is written as itself.** -/
theorem again (h : StoredAs cell v) : StoredAs (.plain v) v := by
  cases cell with
  | markup s => exact storedAs_of_text (s := s) h
  | record fields => exact storedAs_of_text (s := fields.text) h
  | plain value =>
    cases value with
    | text s => exact storedAs_of_text (s := s) h
    | int i => exact Option.some.inj h ▸ congrArg some (number_nearest i)
    | float x => exact Option.some.inj h ▸ storedAs_number x
    | dateTime x => exact Option.some.inj h ▸ storedAs_serial x
    | empty => exact Option.some.inj h ▸ rfl
    | bool b => exact Option.some.inj h ▸ rfl

/-- No empty text is written. -/
theorem ne_empty {s : String} (h : StoredAs cell (.text s)) : s.isEmpty = false := by
  obtain ⟨_, hs⟩ := storedAs_text_iff.mp h.again
  split at hs
  · exact absurd hs nofun
  · rename_i hne
    exact Bool.eq_false_iff.mpr hne

/-- **A value that is written is read as it is.** -/
theorem read (h : StoredAs cell v) : Entry.read? (.value v) = some v := by
  cases v with
  | text s =>
    show some (if s.isEmpty then Scalar.empty else .text s) = _
    rw [h.ne_empty, if_neg Bool.false_ne_true]
  | empty => rfl
  | int i => rfl
  | float x => rfl
  | bool b => rfl
  | dateTime x => rfl

end StoredAs

theorem read_ordinal (n : Nat) : Entry.read? (.value (ordinal n)) = some (ordinal n) := rfl

/-! ## The grid -/

/-- Every text of a table is short enough to be written. -/
structure Fits (t : Table) : Prop where
  columns : ∀ name ∈ t.columns, StoredAs (.text name) (entry (.text name))
  cells : ∀ row ∈ t.rows, ∀ cell ∈ row, StoredAs cell (entry cell)

/-- The rows of a table as they are written, each behind its number. -/
def writtenRows (t : Table) : Grid :=
  t.rows.zipIdx.map fun (row, n) => ordinal n :: row.map entry

/-- The values that are written for a table. -/
def written (t : Table) : Grid :=
  (.empty :: t.columns.map fun name => entry (.text name)) :: writtenRows t

/-- A row is written if its cells are. -/
theorem rowEntries_eq_some_iff (row : Row) (n : Nat) (values : List Scalar) : (do
      let entries ← row.mapM entry?
      some (ordinal n :: entries)) = some values ↔
    (∀ cell ∈ row, StoredAs cell (entry cell)) ∧ values = ordinal n :: row.map entry := by
  have hrow {values : List Scalar} : row.mapM entry? = some values ↔ _ :=
    mapM_eq_some_iff storedAs_iff
  constructor
  · intro h
    obtain ⟨entries, hentries, h⟩ := Option.bind_eq_some_iff.mp h
    obtain ⟨hfits, rfl⟩ := hrow.mp hentries
    exact ⟨hfits, (Option.some.inj h).symm⟩
  · rintro ⟨hfits, rfl⟩
    rw [hrow.mpr ⟨hfits, rfl⟩]
    rfl

/-- A table is a grid exactly if its texts fit. -/
theorem grid?_eq_some_iff : grid? t = some g ↔ Fits t ∧ g = written t := by
  have hnames {names : List Scalar} : t.columns.mapM textEntry? = some names ↔
      (∀ name ∈ t.columns, StoredAs (.text name) (entry (.text name))) ∧
        names = t.columns.map fun name => entry (.text name) :=
    mapM_eq_some_iff fun name => storedAs_iff (.text name)
  have hrows {rows : Grid} : t.rows.zipIdx.mapM (fun (row, n) => do
      let entries ← row.mapM entry?
      some (ordinal n :: entries)) = some rows ↔
        (∀ pair ∈ t.rows.zipIdx, ∀ cell ∈ pair.1, StoredAs cell (entry cell)) ∧
          rows = writtenRows t :=
    mapM_eq_some_iff fun (row, n) values => rowEntries_eq_some_iff row n values
  constructor
  · intro h
    obtain ⟨names, h1, h⟩ := Option.bind_eq_some_iff.mp h
    obtain ⟨rows, h2, h⟩ := Option.bind_eq_some_iff.mp h
    obtain ⟨hcolumns, rfl⟩ := hnames.mp h1
    obtain ⟨hcells, rfl⟩ := hrows.mp h2
    refine ⟨⟨hcolumns, fun row hrow => ?_⟩, (Option.some.inj h).symm⟩
    obtain ⟨n, hn⟩ := List.mem_iff_getElem?.mp hrow
    exact hcells (row, n) (List.mk_mem_zipIdx_iff_getElem?.mpr hn)
  · rintro ⟨hfits, rfl⟩
    unfold grid?
    rw [hnames.mpr ⟨hfits.columns, rfl⟩, hrows.mpr ⟨fun pair hpair =>
      hfits.cells pair.1 (List.fst_mem_of_mem_zipIdx hpair), rfl⟩]
    rfl

/-- What is written for a name that is not blank is the name. -/
theorem entry_name (hfits : StoredAs (.text name) (entry (.text name))) (hne : name ≠ "") :
    entry (.text name) = .text name := by
  have hvalue := (storedAs_text_iff.mp hfits).2
  rwa [String.isEmpty_eq_false_iff.mpr hne, if_neg Bool.false_ne_true] at hvalue

theorem written_eq (hfits : Fits t) (hblank : "" ∉ t.columns) :
    written t = (.empty :: t.columns.map .text) :: writtenRows t := by
  unfold written
  rw [List.map_congr_left fun name hname =>
    entry_name (hfits.columns name hname) fun e => hblank (e ▸ hname)]

/-! ## The shape of the grid -/

/-- If there are names, the row of the names is blank in its first place only. -/
theorem isBlank_names {names : List String} (h : names ≠ []) :
    Grid.isBlank (.empty :: names.map .text) = false := by
  obtain ⟨name, names, rfl⟩ := List.exists_cons_of_ne_nil h
  rfl

theorem blanks_names {names : List String} (h : names ≠ []) :
    Grid.blanks (.empty :: names.map .text) = 1 := by
  obtain ⟨name, names, rfl⟩ := List.exists_cons_of_ne_nil h
  rfl

@[simp] theorem length_writtenRows (t : Table) : (writtenRows t).length = t.rows.length := by
  unfold writtenRows
  rw [List.length_map, List.length_zipIdx]

/-- A row begins with its number, so it is not blank. -/
theorem exists_ordinal_of_mem {row : List Scalar} (h : row ∈ writtenRows t) :
    ∃ n entries, row = ordinal n :: entries := by
  obtain ⟨⟨r, n⟩, _, rfl⟩ := List.mem_map.mp h
  exact ⟨n, _, rfl⟩

theorem isBlank_of_mem_writtenRows {row : List Scalar} (h : row ∈ writtenRows t) :
    Grid.isBlank row = false := by
  obtain ⟨n, entries, rfl⟩ := exists_ordinal_of_mem h
  rfl

theorem blanks_of_mem_writtenRows {row : List Scalar} (h : row ∈ writtenRows t) :
    Grid.blanks row = 0 := by
  obtain ⟨n, entries, rfl⟩ := exists_ordinal_of_mem h
  rfl

theorem length_of_mem_writtenRows (h : t.WellFormed) {row : List Scalar}
    (hrow : row ∈ writtenRows t) : row.length = t.columns.length + 1 := by
  obtain ⟨⟨r, n⟩, hr, rfl⟩ := List.mem_map.mp hrow
  rw [List.length_cons, List.length_map, h.length_row r (List.fst_mem_of_mem_zipIdx hr)]

theorem writtenRows_eq_nil_iff : writtenRows t = [] ↔ t.rows = [] := by
  rw [← List.length_eq_zero_iff, length_writtenRows, List.length_eq_zero_iff]

/-- The numbers fill the last row, or the names do if there is no other. -/
theorem isBlank_getLast_written (hfits : Fits t) (hblank : "" ∉ t.columns)
    (hne : t.columns ≠ [] ∨ t.rows ≠ []) (h : written t ≠ []) :
    Grid.isBlank ((written t).getLast h) = false := by
  simp only [written_eq hfits hblank]
  by_cases hrows : writtenRows t = []
  · simp only [hrows, List.getLast_singleton]
    exact isBlank_names (hne.resolve_right fun hne => hne (writtenRows_eq_nil_iff.mp hrows))
  · rw [List.getLast_cons hrows]
    exact isBlank_of_mem_writtenRows (List.getLast_mem hrows)

/-- The last name stands in the last column, or a number does if there is no name. -/
theorem exists_reach_written (h : t.WellFormed) (hfits : Fits t) (hblank : "" ∉ t.columns)
    (hne : t.columns ≠ [] ∨ t.rows ≠ []) :
    ∃ row ∈ written t, Grid.reach row = t.columns.length + 1 := by
  rw [written_eq hfits hblank]
  rcases List.eq_nil_or_concat' t.columns with hcolumns | ⟨names, name, hnames⟩
  · have hrows : writtenRows t ≠ [] := fun hrows =>
      hne.elim (fun hne => hne hcolumns) fun hne => hne (writtenRows_eq_nil_iff.mp hrows)
    obtain ⟨row, rows, hrow⟩ := List.exists_cons_of_ne_nil hrows
    have hmem : row ∈ writtenRows t := by rw [hrow]; exact List.mem_cons_self
    obtain ⟨n, entries, rfl⟩ := exists_ordinal_of_mem hmem
    -- the number is all of its row
    have hlen := length_of_mem_writtenRows h hmem
    rw [hcolumns, List.length_cons] at hlen
    obtain rfl : entries = [] := List.eq_nil_of_length_eq_zero (by simpa using hlen)
    exact ⟨_, List.mem_cons_of_mem _ hmem, by rw [hcolumns]; rfl⟩
  · refine ⟨_, List.mem_cons_self, ?_⟩
    rw [hnames, List.map_append, ← List.cons_append, List.length_append]
    show Grid.reach (_ ++ [Scalar.text name]) = _
    rw [Grid.reach_concat _ rfl, List.length_cons, List.length_map]
    rfl

/-- **Neither the last row nor the last column is blank**, unless the table is empty. -/
theorem framed_written (h : t.WellFormed) (hfits : Fits t) (hblank : "" ∉ t.columns)
    (hne : t.columns ≠ [] ∨ t.rows ≠ []) : (written t).Framed (t.columns.length + 1) := by
  refine ⟨fun row hrow => ?_, isBlank_getLast_written hfits hblank hne,
    exists_reach_written h hfits hblank hne⟩
  rcases List.mem_cons.mp hrow with rfl | hrow
  · rw [List.length_cons, List.length_map]
  · exact length_of_mem_writtenRows h hrow

/-! ## The workbook -/

/-- What a table needs to be written. -/
structure Storable (settings : Settings) (t : Table) : Prop where
  rows : t.rows.length < maxRows
  columns : t.columns.length < maxColumns
  name : isName settings.sheetName = true
  fits : Fits t

/-- The workbook with a grid in its only sheet. -/
def book (settings : Settings) (g : Grid) : Workbook :=
  { sheets := [{ name := settings.sheetName, cells := g.fromCorner.map (·.map .value) }] }

/-- **A table is written exactly if it keeps the limits**, and then as its grid. -/
theorem toWorkbook_eq_ok_iff :
    t.toWorkbook settings = .ok w ↔ Storable settings t ∧ w = book settings (written t) := by
  unfold Table.toWorkbook
  by_cases hrows : maxRows < t.rows.length + 1
  · rw [if_pos hrows]
    exact ⟨nofun, fun h => absurd h.1.rows (by omega)⟩
  rw [if_neg hrows]
  by_cases hcolumns : maxColumns < t.columns.length + 1
  · rw [if_pos hcolumns]
    exact ⟨nofun, fun h => absurd h.1.columns (by omega)⟩
  rw [if_neg hcolumns]
  cases hname : isName settings.sheetName with
  | false => exact ⟨nofun, fun h => absurd (hname.symm.trans h.1.name) Bool.false_ne_true⟩
  | true =>
    cases hgrid : grid? t with
    | none =>
      refine ⟨nofun, fun h => ?_⟩
      rw [grid?_eq_some_iff.mpr ⟨h.1.fits, rfl⟩] at hgrid
      exact absurd hgrid nofun
    | some g =>
      obtain ⟨hfits, rfl⟩ := grid?_eq_some_iff.mp hgrid
      exact ⟨fun h => ⟨⟨by omega, by omega, hname, hfits⟩, (Except.ok.inj h).symm⟩,
        fun h => by rw [h.2]; rfl⟩

/-- A sheet has no more rows than the table, apart from the names. -/
theorem length_cells_le (hw : t.toWorkbook settings = .ok w) :
    ∀ sheet ∈ w.sheets, sheet.cells.length ≤ t.rows.length + 1 := by
  obtain ⟨_, rfl⟩ := toWorkbook_eq_ok_iff.mp hw
  intro sheet hsheet
  rw [List.mem_singleton.mp hsheet, List.length_map]
  exact length_writtenRows t ▸ (written t).length_fromCorner_le

/-- It has as many if the table is not empty. -/
theorem length_cells (h : t.WellFormed) (hblank : "" ∉ t.columns)
    (hne : t.columns ≠ [] ∨ t.rows ≠ []) (hw : t.toWorkbook settings = .ok w) :
    ∃ sheet ∈ w.sheets, sheet.cells.length = t.rows.length + 1 := by
  obtain ⟨hstore, rfl⟩ := toWorkbook_eq_ok_iff.mp hw
  refine ⟨_, List.mem_singleton_self _, ?_⟩
  rw [List.length_map, (framed_written h hstore.fits hblank hne).fromCorner, written,
    List.length_cons, length_writtenRows]

/-- Values that are read as they are come back from a sheet. -/
theorem values?_eq_some (name : String)
    (h : ∀ row ∈ g, ∀ v ∈ row, Entry.read? (.value v) = some v) :
    values? { name, cells := g.map (·.map .value) } = some g := by
  unfold values?
  dsimp only
  rw [List.mapM_map]
  refine mapM_eq_some_self fun row hrow => ?_
  dsimp only [Function.comp]
  rw [List.mapM_map]
  exact mapM_eq_some_self (h row hrow)

/-- All values that are written are such. -/
theorem read_of_mem_written (hfits : Fits t) :
    ∀ row ∈ written t, ∀ v ∈ row, Entry.read? (.value v) = some v := by
  intro row hrow v hv
  rcases List.mem_cons.mp hrow with rfl | hrow
  · rcases List.mem_cons.mp hv with rfl | hv
    · rfl
    · obtain ⟨name, hname, rfl⟩ := List.mem_map.mp hv
      exact (hfits.columns name hname).read
  · obtain ⟨⟨r, n⟩, hr, rfl⟩ := List.mem_map.mp hrow
    rcases List.mem_cons.mp hv with rfl | hv
    · exact read_ordinal n
    · obtain ⟨cell, hcell, rfl⟩ := List.mem_map.mp hv
      exact (hfits.cells r (List.fst_mem_of_mem_zipIdx hr) cell hcell).read

end Sheet

end TidyTable
