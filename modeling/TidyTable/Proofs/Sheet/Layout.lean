import TidyTable.Proofs.Sheet.Limits
import TidyTable.Proofs.Sheet.Places

/-!
# What stands where in a sheet

`Sheet.LaidOut` is the layout of a sheet, place by place: the names in the first row behind the
corner, each row behind its number, every cell one row below and one column to the right of where it
stands in the table, and nothing anywhere else. A sheet is cut where nothing more stands in it, and
that changes no place.

A table is written exactly if it is within the limits, which count the row of the names and the
column of the numbers. So no number of a row or of a column is too large for the words of 32 and 16
bits that it is passed on in.
-/

namespace TidyTable

/-! ## Places that are cut off -/

namespace Grid

variable {g : Grid} {row : List Scalar} {w : Nat}

/-- Behind the end of a row there is nothing. -/
theorem place_eq_empty {j : Nat} (h : row.length ≤ j) : place row j = .empty := by
  rw [place, List.getElem?_eq_none h, Option.getD_none]

theorem place_of_reach_le {j : Nat} (h : reach row ≤ j) : place row j = .empty := by
  induction row using List.reverseRecOn with
  | nil => rfl
  | append_singleton row v ih =>
    cases hv : v.isEmpty with
    | false =>
      rw [reach_concat row hv] at h
      exact place_eq_empty (by rw [List.length_append]; exact h)
    | true =>
      -- an empty value at the end is not reached, wherever the place is
      have hreach : reach (row ++ [v]) = reach row := by
        unfold reach
        rw [List.reverse_concat, blanks_cons, hv, if_pos rfl, List.length_append,
          List.length_singleton, Nat.add_sub_add_right]
      rcases Nat.lt_trichotomy j row.length with hj | rfl | hj
      · rw [place, List.getElem?_append_left hj]
        exact ih (hreach ▸ h)
      · rw [place, List.getElem?_concat_length, Option.getD_some]
        exact isEmpty_iff.mp hv
      · exact place_eq_empty (by rw [List.length_append]; exact hj)

/-- Nor is there below the last row. -/
theorem value_eq_empty {i : Nat} (h : g.length ≤ i) (j : Nat) : g.value i j = .empty := by
  rw [value, List.getElem?_eq_none h]
  rfl

theorem value_of_isBlank {i : Nat} (h : ∀ row ∈ g[i]?, isBlank row = true) (j : Nat) :
    g.value i j = .empty := by
  unfold value
  cases hrow : g[i]? with
  | none => rfl
  | some row => exact isBlank_iff.mp (h row hrow) j

/-- Dropping blank rows at the end changes no value. -/
theorem value_dropBelow (g : Grid) (i j : Nat) : g.dropBelow.value i j = g.value i j := by
  rw [dropBelow_eq_rdropWhile]
  induction g using List.reverseRecOn with
  | nil => rfl
  | append_singleton g row ih =>
    rw [List.rdropWhile_concat]
    split_ifs with hblank
    · rw [ih]
      rcases Nat.lt_or_ge i g.length with hi | hi
      · rw [value, value, List.getElem?_append_left hi]
      · rw [value_eq_empty hi, value_of_isBlank]
        intro row' hrow
        rw [List.getElem?_append_right hi] at hrow
        obtain rfl := List.mem_singleton.mp (List.mem_of_getElem? hrow)
        exact hblank
    · rfl

/-- Behind the place that every row reaches nothing is cut off. -/
theorem value_map_cut (hw : width g ≤ w) (i j : Nat) :
    value (g.map (cut 0 w)) i j = g.value i j := by
  unfold value
  rw [List.getElem?_map]
  cases hrow : g[i]? with
  | none => rfl
  | some row =>
    show place (cut 0 w row) j = place row j
    rw [cut_eq_map_range, place, List.getElem?_map]
    rcases Nat.lt_or_ge j w with hj | hj
    · rw [List.getElem?_range (by omega), Option.map_some, Option.getD_some, Nat.zero_add]
    · have hreach := width_le_iff.mp hw row (List.mem_of_getElem? hrow)
      rw [place_of_reach_le (Nat.le_trans hreach hj), List.getElem?_eq_none (by simpa using hj)]
      rfl

/-- **A sheet has in all places what was written there**, wherever it is cut. -/
theorem value_fromCorner (g : Grid) (i j : Nat) : g.fromCorner.value i j = g.value i j :=
  (value_map_cut (Nat.le_refl _) i j).trans (value_dropBelow g i j)

end Grid

/-! ## Cells -/

namespace Cell

/-- Whether a cell leaves its place free: an empty one, an empty text, a missing number. -/
def leavesFree : Cell → Bool
  | .plain .empty => true
  | .plain (.text s) | .markup s => s.isEmpty
  | .plain (.float x) =>
    match Decimal.Binary.ofFloat x with
    | .nan => true
    | _ => false
  | _ => false

/-- The value of a cell in the kinds that a sheet has. -/
def stored : Cell → Scalar
  | .plain (.text s) | .markup s => .text s
  | .record fields => .text fields.text
  | .plain (.int i) => .float (Decimal.nearest i.toInt)
  | .plain (.float x) =>
    match Decimal.Binary.ofFloat x with
    | .infinite negative => .text (if negative then "-inf" else "inf")
    | _ => .float x
  | .plain v => v

end Cell

namespace Sheet

variable {settings : Settings} {t : Table} {g : Grid} {cell : Cell}

theorem isEmpty_text_record (fields : Record) : fields.text.isEmpty = false := by
  rw [String.isEmpty_eq_false_iff]
  intro hempty
  have hchars : Json.render (.object fields) = [] := by
    rw [← String.toList_ofList (l := Json.render (.object fields))]
    exact congrArg String.toList hempty
  cases fields with
  | nil => exact absurd hchars (List.cons_ne_nil _ _)
  | cons field fields => exact absurd hchars (List.cons_ne_nil _ _)

/-- A cell that is written leaves its place free or stands in it with its value. -/
theorem entry_eq_stored (hfits : StoredAs cell (entry cell))
    (hserial : ∀ x, cell = .plain (.dateTime x) → (Decimal.Binary.ofFloat x).isFinite = true) :
    entry cell = if cell.leavesFree then .empty else cell.stored := by
  have hentry : ∀ {v}, StoredAs cell v → entry cell = v := fun h =>
    ((storedAs_iff cell _).mp h).2.symm
  cases cell with
  | markup s => exact (storedAs_text_iff.mp hfits).2
  | record fields =>
    have hvalue := (storedAs_text_iff (s := fields.text).mp hfits).2
    rw [isEmpty_text_record] at hvalue
    exact hvalue
  | plain value =>
    cases value with
    | text s => exact (storedAs_text_iff.mp hfits).2
    | empty | int _ | bool _ => rfl
    | float x =>
      show number x = _
      rw [number, Cell.leavesFree, Cell.stored]
      cases Decimal.Binary.ofFloat x with
      | nan => rfl
      | infinite negative => cases negative <;> rfl
      | finite negative m e => rfl
    | dateTime x =>
      show serial x = _
      have hfinite := hserial x rfl
      unfold serial
      cases hx : Decimal.Binary.ofFloat x with
      | finite negative m e => rfl
      | nan =>
        rw [hx] at hfinite
        exact absurd hfinite Bool.false_ne_true
      | infinite negative =>
        rw [hx] at hfinite
        exact absurd hfinite Bool.false_ne_true

/-! ## Limits -/

/-- What keeps a table from being written to a sheet that has a name. -/
theorem not_storable_iff (hname : isName settings.sheetName = true) :
    ¬ Storable settings t ↔ 1048575 < t.rows.length ∨ 16383 < t.columns.length ∨
      (∃ name ∈ t.columns, 32767 < name.length) ∨
      ∃ row ∈ t.rows, ∃ cell ∈ row, ∃ s ∈ cell.heldText?, 32767 < s.length := by
  have hstorable : Storable settings t ↔ t.rows.length ≤ 1048575 ∧ t.columns.length ≤ 16383 ∧
      (∀ name ∈ t.columns, name.length ≤ 32767) ∧
      ∀ row ∈ t.rows, ∀ cell ∈ row, ∀ s ∈ cell.heldText?, s.length ≤ 32767 := by
    constructor
    · intro h
      have hshort := fits_iff.mp h.fits
      exact ⟨Nat.le_of_lt_succ h.rows, Nat.le_of_lt_succ h.columns, hshort.columns, hshort.cells⟩
    · rintro ⟨hrows, hcolumns, hnames, hcells⟩
      exact ⟨Nat.lt_succ_of_le hrows, Nat.lt_succ_of_le hcolumns, hname,
        fits_iff.mpr ⟨hnames, hcells⟩⟩
  rw [hstorable]
  simp only [not_and_or, not_forall, exists_prop, Nat.not_le]

/-! ## The layout -/

/-- What stands where in a sheet that a table was written to. -/
structure LaidOut (t : Table) (g : Grid) : Prop where
  corner : g.value 0 0 = .empty
  name : ∀ {j name}, t.columns[j]? = some name →
    g.value 0 (j + 1) = if name.isEmpty then .empty else .text name
  number : ∀ {i}, i < t.rows.length →
    ∃ x, g.value (i + 1) 0 = .float x ∧ Decimal.whole? x = some (i : Int)
  cell : ∀ {i j : Nat} {row : Row} {cell : Cell}, t.rows[i]? = some row → row[j]? = some cell →
    g.value (i + 1) (j + 1) = if cell.leavesFree then .empty else cell.stored
  below : ∀ {i}, t.rows.length < i → ∀ j, g.value i j = .empty
  right : ∀ {j}, t.columns.length < j → ∀ i, g.value i j = .empty

theorem value_written_succ (i j : Nat) :
    (written t).value (i + 1) j
      = Grid.place ((t.rows[i]?.map fun row => ordinal i :: row.map entry).getD []) j := by
  show Grid.place ((writtenRows t)[i]?.getD []) j = _
  rw [writtenRows, List.getElem?_map, List.getElem?_zipIdx, Option.map_map, Nat.zero_add]
  rfl

/-- **What is written is laid out as it should be**, if its serials are finite. -/
theorem laidOut_written (h : t.WellFormed) (hfits : Fits t) (hrows : t.rows.length < maxRows)
    (hserial : ∀ row ∈ t.rows, ∀ x, .plain (.dateTime x) ∈ row →
      (Decimal.Binary.ofFloat x).isFinite = true) : LaidOut t (written t) where
  corner := rfl
  name {j name} hname := by
    show Grid.place (.empty :: t.columns.map fun name => entry (.text name)) (j + 1) = _
    rw [Grid.place, List.getElem?_cons_succ, List.getElem?_map, hname]
    exact (storedAs_text_iff.mp (hfits.columns name (List.mem_of_getElem? hname))).2
  number {i} hi := by
    refine ⟨Decimal.nearest i, ?_, Decimal.whole?_nearest ?_⟩
    · rw [value_written_succ, List.getElem?_eq_getElem hi]
      rfl
    · have hmax : maxRows < 2 ^ 53 := by decide
      omega
  cell {i j row cell} hrow hcell := by
    have hmem := List.mem_of_getElem? hrow
    have hmem' := List.mem_of_getElem? hcell
    rw [value_written_succ, hrow]
    show ((row.map entry)[j]?).getD .empty = _
    rw [List.getElem?_map, hcell]
    refine entry_eq_stored (hfits.cells row hmem cell hmem') fun x hx => ?_
    exact hserial row hmem x (hx ▸ hmem')
  below {i} hi j := by
    refine Grid.value_eq_empty ?_ j
    rw [written, List.length_cons, length_writtenRows]
    exact hi
  right {j} hj i := by
    cases i with
    | zero =>
      show Grid.place (.empty :: t.columns.map fun name => entry (.text name)) j = _
      refine Grid.place_eq_empty ?_
      rw [List.length_cons, List.length_map]
      exact hj
    | succ i =>
      rw [value_written_succ]
      cases hrow : t.rows[i]? with
      | none => rfl
      | some row =>
        show Grid.place (ordinal i :: row.map entry) j = _
        refine Grid.place_eq_empty ?_
        rw [List.length_cons, List.length_map, h.length_row row (List.mem_of_getElem? hrow)]
        exact hj

/-- The layout is about values in places only. -/
theorem LaidOut.congr {g' : Grid} (h : LaidOut t g) (hsame : ∀ i j, g'.value i j = g.value i j) :
    LaidOut t g' where
  corner := (hsame _ _).trans h.corner
  name hname := (hsame _ _).trans (h.name hname)
  number hi := by
    obtain ⟨x, hx, hwhole⟩ := h.number hi
    exact ⟨x, (hsame _ _).trans hx, hwhole⟩
  cell hrow hcell := (hsame _ _).trans (h.cell hrow hcell)
  below hi j := (hsame _ _).trans (h.below hi j)
  right hj i := (hsame _ _).trans (h.right hj i)

end Sheet

namespace Table

variable {settings : Settings} {t : Table}

/-- **A table is written exactly if it is within the limits of a sheet, and then everything stands
where it belongs.** The numbers of its rows and columns are not changed where they are narrowed. -/
theorem toWorkbook_laidOut (hsettings : settings.fault? = none)
    (hname : Sheet.isQuoted settings.sheetName = false) (h : t.WellFormed)
    (hserial : ∀ row ∈ t.rows, ∀ x, .plain (.dateTime x) ∈ row →
      (Decimal.Binary.ofFloat x).isFinite = true) :
    ((∃ failure, t.toWorkbook settings = .error failure) ↔
      1048575 < t.rows.length ∨ 16383 < t.columns.length ∨
        (∃ name ∈ t.columns, 32767 < name.length) ∨
        ∃ row ∈ t.rows, ∃ cell ∈ row, ∃ s ∈ cell.heldText?, 32767 < s.length) ∧
    ∀ w, t.toWorkbook settings = .ok w →
      (∃ g : Grid, w.sheets = [{ name := settings.sheetName, cells := g.map (·.map .value) }] ∧
        Sheet.LaidOut t g) ∧
      (∀ i ≤ t.rows.length, i.toUInt32.toNat = i) ∧
      ∀ j ≤ t.columns.length, j.toUInt16.toNat = j := by
  have hvalid := Settings.fault?_eq_none_iff.mp hsettings
  have hisname : Sheet.isName settings.sheetName = true := by
    rw [Sheet.isName_of_valid hvalid, hname]
    rfl
  constructor
  · have hfails : (∃ failure, t.toWorkbook settings = .error failure) ↔
        ¬ Sheet.Storable settings t := by
      constructor
      · rintro ⟨failure, hfailure⟩ hstore
        rw [Sheet.toWorkbook_eq_ok_iff.mpr ⟨hstore, rfl⟩] at hfailure
        exact absurd hfailure nofun
      · intro hstore
        cases hw : t.toWorkbook settings with
        | error failure => exact ⟨failure, rfl⟩
        | ok w => exact absurd (Sheet.toWorkbook_eq_ok_iff.mp hw).1 hstore
    exact hfails.trans (Sheet.not_storable_iff hisname)
  · intro w hw
    obtain ⟨hstore, rfl⟩ := Sheet.toWorkbook_eq_ok_iff.mp hw
    have hrows : t.rows.length < 1048576 := hstore.rows
    have hcolumns : t.columns.length < 16384 := hstore.columns
    refine ⟨⟨_, rfl, ?_⟩, fun i hi => ?_, fun j hj => ?_⟩
    · exact (Sheet.laidOut_written h hstore.fits hstore.rows hserial).congr
        (Grid.value_fromCorner _)
    · exact UInt32.toNat_ofNat_of_lt (Nat.lt_of_le_of_lt hi (Nat.lt_trans hrows (by decide)))
    · exact UInt16.toNat_ofNat_of_lt (Nat.lt_of_le_of_lt hj (Nat.lt_trans hcolumns (by decide)))

theorem toWorkbook_laidOut_serial :
    let settings : Settings := {}
    let t : Table :=
      { columns := ["n", ""]
        rows := [[.plain (.int 7), .plain (.dateTime (Decimal.nearest 45000))],
          [.markup "<b>", .empty]] }
    settings.fault? = none ∧ Sheet.isQuoted settings.sheetName = false ∧ t.WellFormed ∧
      (∀ row ∈ t.rows, ∀ x, .plain (.dateTime x) ∈ row →
        (Decimal.Binary.ofFloat x).isFinite = true) ∧
      ∃ w g, t.toWorkbook settings = .ok w ∧
        w.sheets = [{ name := "Sheet1", cells := g.map (·.map .value) }] ∧
        Sheet.LaidOut t g ∧ g.value 1 2 = .dateTime (Decimal.nearest 45000) := by
  intro settings t
  have hsettings : settings.fault? = none := by decide
  have hserial : ∀ row ∈ t.rows, ∀ x, .plain (.dateTime x) ∈ row →
      (Decimal.Binary.ofFloat x).isFinite = true := by
    intro row hrow x hx
    obtain rfl : x = Decimal.nearest 45000 := by
      simp only [t, List.mem_cons, List.not_mem_nil, or_false] at hrow
      rcases hrow with rfl | rfl
      · simpa using hx
      · simp [Cell.empty] at hx
    exact Decimal.isFinite_nearest (by decide)
  obtain ⟨hfails, hlayout⟩ := toWorkbook_laidOut (t := t) hsettings (by decide) (by decide) hserial
  cases hw : t.toWorkbook settings with
  | error failure =>
    have hlong := hfails.mp ⟨failure, hw⟩
    exact absurd hlong (by decide +kernel)
  | ok w =>
    obtain ⟨⟨g, hsheets, hg⟩, -⟩ := hlayout w hw
    exact ⟨hsettings, by decide, by decide, hserial, w, g, rfl, hsheets, hg,
      hg.cell (i := 0) (j := 1) rfl rfl⟩

end Table

end TidyTable
