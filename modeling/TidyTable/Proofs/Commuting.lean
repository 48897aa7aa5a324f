import Mathlib.Data.List.InsertIdx
import TidyTable.Processor
import TidyTable.Proofs.Flattening

/-!
# Cleaning before or after flattening

A table is cleaned up in two steps: its cells are cleaned, and the nested column is flattened. The
steps may also be taken the other way round. Each of them changes cells, but not those that the
other one looks at. Cleaning changes markup only, and markup has no leaves, neither before it is
reduced to a text nor afterwards; so flattening finds the same paths and the same values. And what
flattening puts into the new columns is plain, even where its text looks like markup, so cleaning
passes it by.
-/

namespace TidyTable

namespace Cleaner

/-- Neither markup nor the text that it is reduced to has leaves, and other cells stay. -/
theorem entries_clean (c : Cleaner) (separator : String) (cell : Cell) :
    (c.clean cell).entries separator = cell.entries separator := by
  cases cell with
  | plain v => rfl
  | markup s => rfl
  | record fields => rfl

end Cleaner

namespace Table

variable (c : Cleaner) (separator : String) (k : Nat)

theorem entriesOf_cleanRow (row : Row) :
    entriesOf separator k (c.cleanRow row) = entriesOf separator k row := by
  unfold entriesOf Cleaner.cleanRow
  rw [List.getElem?_map]
  cases row[k]? with
  | none => rfl
  | some cell => exact c.entries_clean separator cell

theorem newPaths_mapRows (t : Table) :
    (t.mapRows c.cleanRow).newPaths separator k = t.newPaths separator k := by
  have hleaves : (t.mapRows c.cleanRow).rows.flatMap (entriesOf separator k)
      = t.rows.flatMap (entriesOf separator k) := by
    show (t.rows.map c.cleanRow).flatMap (entriesOf separator k) = _
    rw [List.flatMap_map]
    exact congrArg (List.flatMap · t.rows) (funext (entriesOf_cleanRow c separator k))
  unfold newPaths
  rw [hleaves]
  rfl

/-- The cells that stay are cleaned either way, and the new ones are plain. -/
theorem flattened_mapRows (t : Table) :
    (t.mapRows c.cleanRow).flattened separator k
      = (t.flattened separator k).mapRows c.cleanRow := by
  have hrow (row : Row) : (c.cleanRow row).eraseIdx k
        ++ (t.newPaths separator k).map (fun path => Cell.plain
          ((lastOn path (entriesOf separator k (c.cleanRow row))).getD .empty))
      = c.cleanRow (row.eraseIdx k ++ (t.newPaths separator k).map fun path =>
          .plain ((lastOn path (entriesOf separator k row)).getD .empty)) := by
    rw [entriesOf_cleanRow]
    unfold Cleaner.cleanRow
    rw [List.map_append, List.map_map, List.eraseIdx_map]
    rfl
  unfold flattened
  rw [newPaths_mapRows]
  unfold mapRows
  rw [List.map_map, List.map_map]
  congr 1
  exact List.map_congr_left fun row _ => hrow row

theorem flatten_mapRows (nested : String) (t : Table) :
    (t.mapRows c.cleanRow).flatten nested separator
      = (t.flatten nested separator).mapRows c.cleanRow := by
  cases hk : t.columnIndex? nested with
  | some k =>
    have hk' : (t.mapRows c.cleanRow).columnIndex? nested = some k := hk
    rw [flatten_at separator hk, flatten_at separator hk', flattened_mapRows]
  | none =>
    have hnot : nested ∉ t.columns := List.idxOf?_eq_none_iff.mp hk
    have hnot' : nested ∉ (t.mapRows c.cleanRow).columns := hnot
    rw [flatten_of_not_mem separator hnot, flatten_of_not_mem separator hnot']

end Table

namespace Processor

/-- **The two steps of cleaning up can be taken in either order.** Nothing is asked of the table. One
whose names repeat or whose rows are too short or too long is never built, though: every table that
is read or cleaned up is well formed (`Table.wellFormed_of_obtained`). -/
theorem processTable_eq_mapRows_flatten (p : Processor) (t : Table) :
    p.processTable t = (p.flatten t).mapRows p.processRow :=
  t.flatten_mapRows p.cleaner p.settings.keySeparator p.settings.nestedColumn

end Processor

end TidyTable
