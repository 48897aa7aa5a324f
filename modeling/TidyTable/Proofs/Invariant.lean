import TidyTable.Csv.Codec
import TidyTable.Processor
import TidyTable.Proofs.Flattening
import TidyTable.Proofs.Naming

/-!
# Tables stay well-formed

`WellFormed` says that the names of the columns are distinct and that every row has one cell for
each of them. It holds of a table without rows, and everything that happens to a table on its way
from a text and back keeps it: rows are filled up or refused, columns are taken out of the header
and the rows at one place, cells are cleaned one by one. Flattening is the one step that adds names,
and it adds only paths that are no names yet, each once.

`Built` is every table that can be made from headers by adding rows. Such a table has one property
more: no name is blank, because a blank header is named after its place. Flattening loses that,
since a path may be blank.
-/

namespace TidyTable

theorem mapM_eq_some_self {α : Type} {f : α → Option α} {xs : List α}
    (h : ∀ x ∈ xs, f x = some x) : xs.mapM f = some xs := by
  induction xs with
  | nil => rfl
  | cons x xs ih =>
    obtain ⟨hx, hxs⟩ := List.forall_mem_cons.mp h
    rw [List.mapM_cons, hx, ih hxs]
    rfl

namespace Table

variable {t t' : Table}

/-! ## Headers and rows -/

theorem wellFormed_ofHeaders (raws : List String) : (ofHeaders raws).WellFormed :=
  ⟨Header.nodup_normalize raws, fun _ h => absurd h List.not_mem_nil⟩

/-- A row that fits has one cell for each column. -/
theorem length_of_fit? {width : Nat} {row row' : Row} (h : fit? width row = some row') :
    row'.length = width := by
  unfold fit? at h
  split at h
  · rename_i hle
    obtain rfl := Option.some.inj h
    rw [List.length_append, List.length_replicate]
    omega
  · exact absurd h nofun

/-- A row with one cell for each column fits as it is. -/
theorem fit?_of_length {width : Nat} {row : Row} (h : row.length = width) :
    fit? width row = some row := by
  unfold fit?
  rw [if_pos (Nat.le_of_eq h), h, Nat.sub_self, List.replicate_zero, List.append_nil]

theorem push?_spec {row : Row} (h : t.push? row = some t') :
    ∃ row', fit? t.columns.length row = some row' ∧
      t' = { t with rows := t.rows ++ [row'] } := by
  obtain ⟨row', hfit, rfl⟩ := Option.map_eq_some_iff.mp h
  exact ⟨row', hfit, rfl⟩

theorem WellFormed.push {row : Row} (ht : t.WellFormed) (h : t.push? row = some t') :
    t'.WellFormed := by
  obtain ⟨row', hfit, rfl⟩ := push?_spec h
  refine ⟨ht.nodup_columns, fun r hr => ?_⟩
  rcases List.mem_append.mp hr with hr | hr
  · exact ht.length_row r hr
  · rw [List.mem_singleton.mp hr]
    exact length_of_fit? hfit

/-- The rows of a well-formed table can be added to its names: none of them is too long, and none
is filled up. -/
theorem WellFormed.pushAll?_rows (ht : t.WellFormed) :
    ({ columns := t.columns } : Table).pushAll? t.rows = some t := by
  unfold pushAll?
  rw [mapM_eq_some_self fun row hrow => fit?_of_length (ht.length_row row hrow)]
  rfl

/-! ## Columns -/

/-- Names are distinct, so a name stands in one place only. -/
theorem WellFormed.place_unique (ht : t.WellFormed) {i k : Nat} {name : String}
    (hi : t.columns[i]? = some name) (hk : t.columns[k]? = some name) : i = k := by
  obtain ⟨hlt, -⟩ := List.getElem?_eq_some_iff.mp hi
  exact (List.getElem?_inj hlt ht.nodup_columns).mp (hi.trans hk.symm)

theorem WellFormed.not_mem_eraseIdx (ht : t.WellFormed) {k : Nat} {name : String}
    (hk : t.columns[k]? = some name) : name ∉ t.columns.eraseIdx k := by
  intro hmem
  obtain ⟨i, hne, hi⟩ := List.mem_eraseIdx_iff_getElem?.mp hmem
  exact hne (ht.place_unique hi hk)

theorem WellFormed.eraseColumn (ht : t.WellFormed) (i : Nat) : (t.eraseColumn i).WellFormed := by
  refine ⟨List.Nodup.eraseIdx i ht.nodup_columns, fun row hrow => ?_⟩
  obtain ⟨r, hr, rfl⟩ := List.mem_map.mp hrow
  show (r.eraseIdx i).length = (t.columns.eraseIdx i).length
  rw [List.length_eraseIdx, List.length_eraseIdx, ht.length_row r hr]

theorem WellFormed.dropIndex (ht : t.WellFormed) : t.dropIndex.WellFormed := by
  unfold Table.dropIndex
  split
  · exact ht.eraseColumn 0
  · exact ht

theorem WellFormed.mapRows {f : Row → Row} (ht : t.WellFormed)
    (hf : ∀ row, (f row).length = row.length) : (t.mapRows f).WellFormed := by
  refine ⟨ht.nodup_columns, fun row hrow => ?_⟩
  obtain ⟨r, hr, rfl⟩ := List.mem_map.mp hrow
  rw [hf]
  exact ht.length_row r hr

/-! ## Flattening -/

theorem nodup_newPaths (separator : String) (k : Nat) (t : Table) :
    (t.newPaths separator k).Nodup := by
  unfold newPaths
  rw [← firstMet_eq_eraseDups]
  exact (nodup_firstMet _).filter _

theorem WellFormed.flattened (ht : t.WellFormed) (separator : String) (k : Nat) :
    (t.flattened separator k).WellFormed := by
  refine ⟨?_, fun row hrow => ?_⟩
  · -- a path that is the name of another column was left out
    refine List.nodup_append.mpr ⟨List.Nodup.eraseIdx k ht.nodup_columns,
      nodup_newPaths separator k t, fun name hname path hpath e => ?_⟩
    exact (mem_newPaths_iff.mp hpath).2 (e ▸ hname)
  · obtain ⟨r, hr, rfl⟩ := List.mem_map.mp hrow
    show _ = (t.columns.eraseIdx k ++ t.newPaths separator k).length
    rw [List.length_append, List.length_append, List.length_map, List.length_eraseIdx,
      List.length_eraseIdx, ht.length_row r hr]

theorem WellFormed.flatten (ht : t.WellFormed) (nested separator : String) :
    (t.flatten nested separator).WellFormed := by
  rcases flatten_cases nested separator t with ⟨-, hflat⟩ | ⟨k, -, hflat⟩
  · rw [hflat]
    exact ht
  · rw [hflat]
    exact ht.flattened separator k

/-- Cleaning up a table keeps it well-formed. -/
theorem WellFormed.process (ht : t.WellFormed) (p : Processor) : (p.processTable t).WellFormed :=
  (ht.mapRows fun _ => List.length_map _).flatten _ _

/-- Flattening neither adds a row nor takes one away. -/
@[simp] theorem length_rows_flatten (nested separator : String) (t : Table) :
    (t.flatten nested separator).rows.length = t.rows.length := by
  rcases flatten_cases nested separator t with ⟨-, hflat⟩ | ⟨k, -, hflat⟩
  · rw [hflat]
  · rw [hflat]
    exact List.length_map _

/-- Nor does cleaning up. -/
@[simp] theorem length_rows_processTable (p : Processor) (t : Table) :
    (p.processTable t).rows.length = t.rows.length := by
  unfold Processor.processTable Processor.flatten
  rw [length_rows_flatten]
  exact List.length_map _

/-- Dropping the index takes no row away. -/
@[simp] theorem length_rows_dropIndex (t : Table) : t.dropIndex.rows.length = t.rows.length := by
  unfold dropIndex
  split
  · exact List.length_map _
  · rfl

/-! ## Tables that are built -/

/-- The tables that are made from headers by adding rows. -/
inductive Built : Table → Prop where
  | ofHeaders (raws : List String) : Built (ofHeaders raws)
  | push {t t' : Table} {row : Row} : Built t → t.push? row = some t' → Built t'

/-- **A table that is built is well-formed.** -/
theorem Built.wellFormed (h : t.Built) : t.WellFormed := by
  induction h with
  | ofHeaders raws => exact wellFormed_ofHeaders raws
  | push _ hrow ih => exact ih.push hrow

/-- No column of a table that is built has a blank name. -/
theorem Built.blank_not_mem (h : t.Built) : "" ∉ t.columns := by
  induction h with
  | ofHeaders raws => exact fun hmem => Header.normalize_ne_empty hmem rfl
  | push _ hrow ih =>
    obtain ⟨row', _, rfl⟩ := push?_spec hrow
    exact ih

end Table

end TidyTable
