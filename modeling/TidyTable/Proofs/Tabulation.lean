import TidyTable.Proofs.Invariant
import TidyTable.Proofs.Reading
import TidyTable.Proofs.Validity

/-!
# From records to a table

`Table.ofTexts` is the table that names and texts describe, each text classified by the name of its
column. `ofCsv_eq_ok_iff` says that reading a text gives exactly this for its records, with the
header normalized and every short record filled up, and that a record longer than the header is the
only thing that stands in the way.

Reading looks the nested column up once and compares places, while the description compares names.
The names are distinct, so it is the same.
-/

namespace TidyTable

open Text (Bytes)

variable {α β ε : Type}

/-! ## Results -/

theorem bind_eq_ok_iff {x : Except ε α} {f : α → Except ε β} {b : β} :
    x >>= f = .ok b ↔ ∃ a, x = .ok a ∧ f a = .ok b := by
  cases x with
  | error e => exact ⟨nofun, fun ⟨a, ha, _⟩ => absurd ha nofun⟩
  | ok a => exact ⟨fun h => ⟨a, rfl, h⟩, fun ⟨a', ha, h⟩ => Except.ok.inj ha ▸ h⟩

theorem map_eq_ok_iff {x : Except ε α} {f : α → β} {b : β} :
    x.map f = .ok b ↔ ∃ a, b = f a ∧ x = .ok a := by
  cases x with
  | error e => exact ⟨nofun, fun ⟨a, _, ha⟩ => absurd ha nofun⟩
  | ok a =>
    constructor
    · intro h
      exact ⟨a, (Except.ok.inj h).symm, rfl⟩
    · rintro ⟨a', rfl, ha⟩
      rw [Except.ok.inj ha]
      rfl

/-- All of them succeed, and these are their values. -/
theorem mapM_eq_ok_iff {f : α → Except ε β} {xs : List α} {ys : List β} :
    xs.mapM f = .ok ys ↔ xs.map f = ys.map Except.ok := by
  induction xs generalizing ys with
  | nil =>
    cases ys with
    | nil => exact ⟨fun _ => rfl, fun _ => rfl⟩
    | cons y ys => exact ⟨nofun, nofun⟩
  | cons x xs ih =>
    rw [List.mapM_cons, List.map_cons, bind_eq_ok_iff]
    cases ys with
    | nil =>
      refine ⟨fun ⟨y, _, h⟩ => ?_, nofun⟩
      obtain ⟨zs, _, h⟩ := bind_eq_ok_iff.mp h
      exact absurd (Except.ok.inj h) (List.cons_ne_nil y zs)
    | cons y ys =>
      rw [List.map_cons, List.cons.injEq]
      constructor
      · rintro ⟨z, hz, h⟩
        obtain ⟨zs, hzs, h⟩ := bind_eq_ok_iff.mp h
        obtain ⟨rfl, rfl⟩ := List.cons.inj (Except.ok.inj h)
        exact ⟨hz, ih.mp hzs⟩
      · rintro ⟨hy, hys⟩
        exact ⟨y, hy, bind_eq_ok_iff.mpr ⟨ys, ih.mpr hys, rfl⟩⟩

theorem map_eq_error_iff {f : α → β} {x : Except ε α} {e : ε} :
    x.map f = .error e ↔ x = .error e := by
  cases x with
  | error e' =>
    show (Except.error e' : Except ε β) = .error e ↔ (Except.error e' : Except ε α) = .error e
    rw [Except.error.injEq, Except.error.injEq]
  | ok v => exact ⟨nofun, nofun⟩

/-- One of them fails, all before it succeed, and those behind it do not count. -/
theorem mapM_eq_error_iff {f : α → Except ε β} {xs : List α} {e : ε} :
    xs.mapM f = .error e ↔ ∃ before x after, xs = before ++ x :: after ∧
      (∀ y ∈ before, ∃ v, f y = .ok v) ∧ f x = .error e := by
  induction xs with
  | nil =>
    refine ⟨nofun, fun ⟨before, x, after, h, _⟩ => ?_⟩
    exact absurd h.symm (List.append_ne_nil_of_right_ne_nil _ (List.cons_ne_nil _ _))
  | cons x xs ih =>
    rw [List.mapM_cons]
    cases hx : f x with
    | error e' =>
      show (Except.error e' : Except ε (List β)) = .error e ↔ _
      refine ⟨fun h => ⟨[], x, xs, rfl, nofun, hx.trans (by rw [Except.error.inj h])⟩,
        fun ⟨before, z, after, h, hall, hz⟩ => ?_⟩
      cases before with
      | nil =>
        rw [← (List.cons.inj h).1, hx] at hz
        rw [Except.error.inj hz]
      | cons y before =>
        obtain ⟨v, hv⟩ := hall y List.mem_cons_self
        rw [← (List.cons.inj h).1, hx] at hv
        exact absurd hv nofun
    | ok v =>
      have hstep : (do let v ← (.ok v : Except ε β); let vs ← xs.mapM f; pure (v :: vs))
          = .error e ↔ xs.mapM f = .error e := by
        cases xs.mapM f with
        | error e' => exact ⟨fun h => h, fun h => h⟩
        | ok vs => exact ⟨nofun, nofun⟩
      rw [hstep, ih]
      constructor
      · rintro ⟨before, z, after, rfl, hall, hz⟩
        exact ⟨x :: before, z, after, rfl, List.forall_mem_cons.mpr ⟨⟨v, hx⟩, hall⟩, hz⟩
      · rintro ⟨before, z, after, h, hall, hz⟩
        cases before with
        | nil =>
          rw [← (List.cons.inj h).1, hx] at hz
          exact absurd hz nofun
        | cons y before =>
          exact ⟨before, z, after, (List.cons.inj h).2, (List.forall_mem_cons.mp hall).2, hz⟩

/-! ## Rows -/

namespace Csv

/-- The texts of a record, filled up with empty ones. -/
def filled (width : Nat) (texts : List String) : List String :=
  texts ++ List.replicate (width - texts.length) ""

theorem length_filled {width : Nat} {texts : List String} (h : texts.length ≤ width) :
    (filled width texts).length = width := by
  unfold filled
  rw [List.length_append, List.length_replicate]
  omega

theorem filled_of_length {width : Nat} {texts : List String} (h : texts.length = width) :
    filled width texts = texts := by
  unfold filled
  rw [h, Nat.sub_self, List.replicate_zero, List.append_nil]

/-- Fields that are text are read as that text. -/
theorem texts_utf8 (fields : List String) : texts (fields.map Text.utf8) = .ok fields := by
  unfold texts
  generalize 0 = k
  induction fields generalizing k with
  | nil => rfl
  | cons field fields ih =>
    rw [List.map_cons, List.zipIdx_cons, List.mapM_cons, ih]
    dsimp only
    rw [Text.readUtf8_utf8]
    rfl

@[simp] theorem ofText_empty (nested : Bool) : Cell.ofText nested "" = Cell.empty := by
  unfold Cell.ofText
  exact if_pos rfl

/-- Filling up with empty texts is filling up with empty cells. -/
theorem fit?_cells {width : Nat} {nestedIndex : Option Nat} {texts : List String}
    (h : texts.length ≤ width) :
    Table.fit? width (cells nestedIndex texts) = some (cells nestedIndex (filled width texts)) := by
  have hlen : (cells nestedIndex texts).length = texts.length := by simp [cells]
  unfold Table.fit?
  rw [hlen, if_pos h]
  unfold cells filled
  rw [List.zipIdx_append, List.map_append]
  congr 2
  refine (List.eq_replicate_iff.mpr ⟨by simp, fun cell hcell => ?_⟩).symm
  obtain ⟨⟨field, i⟩, hmem, rfl⟩ := List.mem_map.mp hcell
  obtain rfl := List.eq_of_mem_replicate (List.fst_mem_of_mem_zipIdx hmem)
  exact ofText_empty _

/-- A record of texts is a row if it is no longer than the header. -/
theorem row_of_texts {width : Nat} {nestedIndex : Option Nat} {record : Record}
    {texts : List String} (h : record.fields = texts.map Text.utf8) :
    row width nestedIndex record =
      if texts.length ≤ width then .ok (cells nestedIndex (filled width texts))
      else .error (.longRecord width record.position.line texts.length) := by
  unfold row
  rw [h, texts_utf8]
  simp only [Except.mapError, bind, Except.bind]
  by_cases hle : texts.length ≤ width
  · rw [fit?_cells hle, if_pos hle]
  · have hnone : Table.fit? width (cells nestedIndex texts) = none := by
      unfold Table.fit?
      exact if_neg (by simpa [cells] using hle)
    rw [hnone, if_neg hle]

end Csv

/-! ## Tables -/

namespace Table

/-- The table that names and texts describe: each text is classified by the name of its column. -/
def ofTexts (nested : String) (columns : List String) (rows : List (List String)) : Table :=
  { columns
    rows := rows.map fun texts =>
      columns.zipWith (fun name text => Cell.ofText (name == nested) text) texts }

/-- Without its first column, a table is described without the first name and the first texts. -/
theorem eraseColumn_ofTexts (nested : String) (columns : List String)
    (rows : List (List String)) :
    (ofTexts nested columns rows).eraseColumn 0
      = ofTexts nested columns.tail (rows.map List.tail) := by
  unfold eraseColumn ofTexts
  simp only [List.eraseIdx_zero, List.map_map, Function.comp_def, List.tail_zipWith]

end Table

namespace Csv

variable {settings : Settings} {header : List String} {rows : List (List String)}

/-- Comparing places with the one of the nested column is comparing names with its name. -/
theorem cells_eq_zipWith {columns : List String} (hn : columns.Nodup) (nested : String)
    {texts : List String} (h : texts.length = columns.length) :
    cells (columns.idxOf? nested) texts
      = columns.zipWith (fun name text => Cell.ofText (name == nested) text) texts := by
  rw [← Header.mapIdx_eq_zipWith hn nested Cell.ofText h, List.mapIdx_eq_zipIdx_map]
  unfold cells
  refine List.map_congr_left fun ⟨text, i⟩ _ => ?_
  dsimp only
  rw [BEq.comm]

variable {read : List Record} {width : Nat} {nestedIndex : Option Nat}

/-- Records are rows exactly if they are no longer than the header. -/
theorem mapM_row_eq_ok_iff (h : read.map Record.fields = rows.map (·.map Text.utf8))
    {out : List Row} : read.mapM (row width nestedIndex) = .ok out ↔
      (∀ texts ∈ rows, texts.length ≤ width) ∧
        out = rows.map fun texts => cells nestedIndex (filled width texts) := by
  rw [mapM_eq_ok_iff]
  induction rows generalizing read out with
  | nil =>
    rw [List.map_eq_nil_iff.mp h]
    cases out <;> simp
  | cons texts rows ih =>
    obtain ⟨record, rest, rfl, hrecord, hrest⟩ := List.map_eq_cons_iff.mp h
    rw [List.map_cons, row_of_texts hrecord, List.forall_mem_cons, List.map_cons]
    cases out with
    | nil => exact ⟨nofun, fun ⟨_, hout⟩ => absurd hout nofun⟩
    | cons cells out =>
      rw [List.map_cons, List.cons.injEq, List.cons.injEq, ih hrest]
      by_cases hle : texts.length ≤ width
      · rw [if_pos hle, Except.ok.injEq]
        exact ⟨fun ⟨h1, h2, h3⟩ => ⟨⟨hle, h2⟩, h1.symm, h3⟩,
          fun ⟨⟨_, h2⟩, h1, h3⟩ => ⟨h1.symm, h2, h3⟩⟩
      · rw [if_neg hle]
        exact ⟨fun hout => absurd hout.1 nofun, fun hout => absurd hout.1.1 hle⟩

/-- The table that records describe, with a row index still in it. -/
def described (settings : Settings) (header : List String) (rows : List (List String)) : Table :=
  Table.ofTexts settings.nestedColumn (Header.normalize header) (rows.map (filled header.length))

/-- The first record names the columns, the others are the rows. -/
theorem tableOf_cons (settings : Settings) {first : Record}
    (h : first.fields = header.map Text.utf8) (rest : List Record) :
    tableOf settings (first :: rest) = (rest.mapM (row header.length
      ((Header.normalize header).idxOf? settings.nestedColumn))).map fun rows =>
        { columns := Header.normalize header, rows } := by
  unfold tableOf
  dsimp only
  rw [h, texts_utf8, ← Header.length_normalize header]
  show ((rest.mapM (row (Header.normalize header).length
    ((Header.normalize header).idxOf? settings.nestedColumn))).bind _) = _
  cases rest.mapM (row (Header.normalize header).length
    ((Header.normalize header).idxOf? settings.nestedColumn)) <;> rfl

/-- **Records are a table exactly if none is longer than the header.** -/
theorem tableOf_eq_ok_iff (settings : Settings) {t : Table}
    (h : read.map Record.fields = (header :: rows).map (·.map Text.utf8)) :
    tableOf settings read = .ok t ↔
      (∀ texts ∈ rows, texts.length ≤ header.length) ∧ t = described settings header rows := by
  obtain ⟨first, rest, rfl, hfirst, hrest⟩ := List.map_eq_cons_iff.mp h
  rw [tableOf_cons settings hfirst rest]
  -- only rows that were filled up have a text for each name
  have hdescribed (hfit : ∀ texts ∈ rows, texts.length ≤ header.length) :
      described settings header rows = { columns := Header.normalize header
                                         rows := rows.map fun texts => cells
                                           ((Header.normalize header).idxOf? settings.nestedColumn)
                                           (filled header.length texts) } := by
    unfold described Table.ofTexts
    rw [List.map_map]
    congr 1
    refine List.map_congr_left fun texts htexts => ?_
    refine (cells_eq_zipWith (Header.nodup_normalize header) _ ?_).symm
    rw [Header.length_normalize, length_filled (hfit texts htexts)]
  generalize (Header.normalize header).idxOf? settings.nestedColumn = place at hdescribed ⊢
  have hiff (out : List Row) : rest.mapM (row header.length place) = .ok out ↔ _ :=
    mapM_row_eq_ok_iff hrest
  rw [map_eq_ok_iff]
  constructor
  · rintro ⟨out, rfl, hout⟩
    obtain ⟨hfit, rfl⟩ := (hiff out).mp hout
    exact ⟨hfit, (hdescribed hfit).symm⟩
  · rintro ⟨hfit, rfl⟩
    exact ⟨_, hdescribed hfit, (hiff _).mpr ⟨hfit, rfl⟩⟩

end Csv

namespace Table

variable {settings : Settings} {content : String} {t : Table} {header : List String}
  {rows : List (List String)}

theorem wellFormed_ofTexts {nested : String} {columns : List String} (hn : columns.Nodup)
    (hrows : ∀ texts ∈ rows, texts.length = columns.length) :
    (ofTexts nested columns rows).WellFormed := by
  refine ⟨hn, fun row hrow => ?_⟩
  obtain ⟨texts, htexts, rfl⟩ := List.mem_map.mp hrow
  show (columns.zipWith _ texts).length = columns.length
  rw [List.length_zipWith, hrows texts htexts, Nat.min_self]

theorem wellFormed_described (settings : Settings)
    (hfit : ∀ texts ∈ rows, texts.length ≤ header.length) :
    (Csv.described settings header rows).WellFormed := by
  refine wellFormed_ofTexts (Header.nodup_normalize header) fun texts htexts => ?_
  obtain ⟨fields, hfields, rfl⟩ := List.mem_map.mp htexts
  rw [Header.length_normalize, Csv.length_filled (hfit fields hfields)]

/-- What a text is read as, given what it says. -/
theorem ofCsv_eq_ok_iff
    (h : Csv.Reads settings.delimiterByte (Text.utf8 (Csv.dropMark content)) (header :: rows)) :
    ofCsv settings content = .ok t ↔
      (∀ texts ∈ rows, texts.length ≤ header.length) ∧
        t = if settings.detectIndexColumn then (Csv.described settings header rows).dropIndex
          else Csv.described settings header rows := by
  have htable (u : Table) := Csv.tableOf_eq_ok_iff settings (t := u) h
  unfold ofCsv Csv.recordsOf
  rw [bind_eq_ok_iff]
  constructor
  · rintro ⟨u, hu, ht⟩
    obtain ⟨hfit, rfl⟩ := (htable u).mp hu
    exact ⟨hfit, (Except.ok.inj ht).symm⟩
  · rintro ⟨hfit, rfl⟩
    exact ⟨_, (htable _).mpr ⟨hfit, rfl⟩, rfl⟩

/-- A text that is read as a table has a header. -/
theorem exists_header_of_ofCsv (hs : settings.fault? = none)
    (hok : ofCsv settings content = .ok t) :
    ∃ header rows,
      Csv.Reads settings.delimiterByte (Text.utf8 (Csv.dropMark content)) (header :: rows) := by
  obtain ⟨all, hall⟩ := Csv.exists_reads (Settings.toNat_delimiterByte hs).2
    (Text.isText_utf8 (Csv.dropMark content))
  cases all with
  | cons header rows => exact ⟨header, rows, hall⟩
  | nil =>
    unfold ofCsv Csv.recordsOf at hok
    rw [List.map_eq_nil_iff.mp hall] at hok
    exact absurd hok nofun

/-- A table that is read is well-formed. -/
theorem wellFormed_of_ofCsv (hs : settings.fault? = none)
    (hok : ofCsv settings content = .ok t) : t.WellFormed := by
  obtain ⟨header, rows, hreads⟩ := exists_header_of_ofCsv hs hok
  obtain ⟨hfit, rfl⟩ := (ofCsv_eq_ok_iff hreads).mp hok
  have hwell := wellFormed_described settings hfit
  split
  · exact hwell.dropIndex
  · exact hwell

end Table

end TidyTable
