import Mathlib.Data.List.Nodup
import TidyTable.Flatten

/-!
# What flattening does

Flattening works by loops: it walks each record with the path so far in hand, collects the paths it
meets, and then moves the values out of the rows one path after another, while the table grows. This
file says what comes out, without any of that. A record is a list of leaves, each under the keys
that lead to it; the new columns are the paths of all leaves, each once; and a cell is the last
value of its row on its path.

The loop over the paths is the part that needs an argument. It asks whether a path is a column while
it adds columns, and looks values up in rows that lose values as it goes. Neither matters, because
the paths are distinct: a column that was added is never asked for again, and a value that was taken
away was on another path.
-/

namespace TidyTable

/-! ## The leaves of a record -/

namespace Json

mutual

/-- The leaves below a value, each under the keys that lead to it. Objects are entered, every other
value is a leaf. -/
def walk : Json → List (List String × Json)
  | .object fields => walkFields fields
  | j => [([], j)]

/-- The leaves below the fields of an object, in their order. -/
def walkFields : List (String × Json) → List (List String × Json)
  | [] => []
  | (key, value) :: rest =>
    (walk value).map (fun (keys, leaf) => (key :: keys, leaf)) ++ walkFields rest

end

end Json

namespace Cell

/-- The leaves of a cell: the joined path to each, and its value. Only a record has any. -/
def entries (separator : String) : Cell → List Leaf
  | .record fields =>
    (Json.walkFields fields).map fun (keys, leaf) =>
      (separator.intercalate keys, Scalar.ofJson leaf)
  | _ => []

end Cell

namespace Json

/-- The keys behind the first one, as they stand in a path. -/
def tailPath (separator : String) : List String → String
  | [] => ""
  | keys => separator ++ separator.intercalate keys

theorem intercalate_cons (separator key : String) (keys : List String) :
    separator.intercalate (key :: keys) = key ++ tailPath separator keys := by
  cases keys with
  | nil => rw [String.intercalate_singleton, tailPath, String.append_empty]
  | cons next keys => rw [String.intercalate_cons_cons, tailPath, String.append_assoc]; simp

theorem tailPath_of_ne_nil (separator : String) {keys : List String} (h : keys ≠ []) :
    tailPath separator keys = separator ++ separator.intercalate keys := by
  cases keys with
  | nil => exact absurd rfl h
  | cons key keys => rfl

/-- Some key leads to every leaf of an object. -/
theorem keys_ne_nil_of_mem_walkFields :
    ∀ {fields : List (String × Json)} {e : List String × Json}, e ∈ walkFields fields → e.1 ≠ []
  | [], _, h => by rw [walkFields] at h; exact absurd h List.not_mem_nil
  | (key, value) :: rest, e, h => by
      rw [walkFields] at h
      rcases List.mem_append.mp h with h | h
      · obtain ⟨e', _, rfl⟩ := List.mem_map.mp h
        exact List.cons_ne_nil _ _
      · exact keys_ne_nil_of_mem_walkFields h

end Json

namespace Record

mutual

/-- Carrying the path along gives the joined keys. -/
theorem leavesAt_eq (separator path : String) : ∀ j : Json,
    leavesAt separator path j = (Json.walk j).map fun e =>
      (path ++ Json.tailPath separator e.1, Scalar.ofJson e.2)
  | .object fields => by
      rw [leavesAt, Json.walk, leavesIn_eq separator _ fields]
      refine List.map_congr_left fun e he => ?_
      rw [Json.tailPath_of_ne_nil separator (Json.keys_ne_nil_of_mem_walkFields he),
        String.append_assoc]
  | .null | .bool _ | .number _ | .string _ | .array _ => by
      simp [leavesAt, Json.walk, Json.tailPath]

theorem leavesIn_eq (separator start : String) : ∀ fields : List (String × Json),
    leavesIn separator start fields = (Json.walkFields fields).map fun e =>
      (start ++ separator.intercalate e.1, Scalar.ofJson e.2)
  | [] => rfl
  | (key, value) :: rest => by
      rw [leavesIn, Json.walkFields, List.map_append, leavesAt_eq separator _ value,
        leavesIn_eq separator start rest, List.map_map]
      congr 1
      refine List.map_congr_left fun e _ => ?_
      dsimp only [Function.comp]
      rw [Json.intercalate_cons, String.append_assoc]

end

end Record

theorem Cell.leaves_eq_entries (separator : String) (cell : Cell) :
    cell.leaves separator = cell.entries separator := by
  cases cell with
  | record fields =>
    show Record.leavesIn separator "" fields = _
    rw [Record.leavesIn_eq]
    refine List.map_congr_left fun e _ => ?_
    rw [String.empty_append]
  | plain value => rfl
  | markup s => rfl

/-! ## Names in the order in which they are met -/

/-- The loop that collects names, from any state on: the names that are not there yet come on top,
each once. -/
theorem foldl_firstMet (names met : List String) :
    names.foldl (fun met name => if name ∈ met then met else name :: met) met
      = (names.filter (· ∉ met)).eraseDups.reverse ++ met := by
  induction names generalizing met with
  | nil => rfl
  | cons name names ih =>
    rw [List.foldl_cons, ih]
    by_cases h : name ∈ met
    · rw [if_pos h, List.filter_cons_of_neg (by simpa using h)]
    · rw [if_neg h, List.filter_cons_of_pos (by simpa using h), List.eraseDups_cons,
        List.reverse_cons, List.append_assoc, List.filter_filter]
      congr 3
      refine List.filter_congr fun x _ => ?_
      by_cases hx : x = name <;> simp [hx]

theorem firstMet_eq_eraseDups (names : List String) : firstMet names = names.eraseDups := by
  unfold firstMet
  rw [foldl_firstMet, List.append_nil, List.reverse_reverse, List.filter_eq_self.mpr (by simp)]

theorem nodup_firstMet (names : List String) : (firstMet names).Nodup := by
  unfold firstMet
  rw [List.nodup_reverse]
  suffices h : ∀ met : List String, met.Nodup →
      (names.foldl (fun met name => if name ∈ met then met else name :: met) met).Nodup from
    h [] List.nodup_nil
  induction names with
  | nil => exact fun met h => h
  | cons name names ih =>
    intro met h
    rw [List.foldl_cons]
    refine ih _ ?_
    by_cases hmem : name ∈ met
    · rwa [if_pos hmem]
    · rw [if_neg hmem]
      exact List.nodup_cons.mpr ⟨hmem, h⟩

/-! ## The values of a row -/

/-- The last value on a path. -/
def lastOn (path : String) (entries : List Leaf) : Option Scalar :=
  ((entries.filter (·.1 == path)).getLast?).map Prod.snd

namespace RowValues

theorem value?_eq_head? (values : RowValues) (path : String) :
    values.value? path = ((values.filter (·.1 == path)).head?).map Prod.snd := by
  unfold value?
  induction values with
  | nil => rfl
  | cons leaf values ih =>
    obtain ⟨p, x⟩ := leaf
    rw [List.lookup_cons]
    by_cases h : p = path
    · subst h
      rw [List.filter_cons_of_pos (by simp)]
      simp
    · rw [List.filter_cons_of_neg (by simpa using h), ← ih]
      rw [beq_false_of_ne (Ne.symm h)]

/-- The newest value on a path is the one of the last leaf. -/
theorem value?_ofLeaves (leaves : List Leaf) (path : String) :
    (ofLeaves leaves).value? path = lastOn path leaves := by
  have hrev : ofLeaves leaves = leaves.reverse := by
    unfold ofLeaves set
    rw [List.foldl_flip_cons_eq_append', List.append_nil]
  rw [value?_eq_head?, hrev, List.filter_reverse, List.head?_reverse]
  rfl

theorem value?_erase {path other : String} (h : path ≠ other) (values : RowValues) :
    (values.erase other).value? path = values.value? path := by
  rw [value?_eq_head?, value?_eq_head?, erase, List.filter_filter]
  congr 2
  refine List.filter_congr fun leaf _ => ?_
  by_cases hl : leaf.1 = path <;> simp [hl, h]

/-- A value that is taken away leaves the cells of the other paths alone. -/
theorem cell_erase {path other : String} (h : path ≠ other) (values : RowValues) :
    (values.erase other).cell path = values.cell path := by
  unfold cell
  rw [value?_erase h]

theorem cell_ofLeaves (leaves : List Leaf) (path : String) :
    (ofLeaves leaves).cell path = .plain ((lastOn path leaves).getD .empty) := by
  unfold cell
  rw [value?_ofLeaves]
  cases lastOn path leaves <;> rfl

end RowValues

/-! ## One path after another -/

namespace Table

/-- The paths for which a column is added. -/
def added (columns paths : List String) : List String := paths.filter (· ∉ columns)

/-- **The loop over the paths.** The rows are given together with the values they still have. -/
theorem addPaths_eq {paths : List String} (hp : paths.Nodup) (columns : List String)
    (pairs : List (Row × RowValues)) :
    addPaths { columns, rows := pairs.map Prod.fst } (pairs.map Prod.snd) paths
      = { columns := columns ++ added columns paths
          rows := pairs.map fun pair => pair.1 ++ (added columns paths).map pair.2.cell } := by
  induction paths generalizing columns pairs with
  | nil => simp [addPaths, added]
  | cons path paths ih =>
    obtain ⟨hnot, hrest⟩ := List.nodup_cons.mp hp
    by_cases hcol : path ∈ columns
    · -- the column keeps its own cells
      have hadded : added columns (path :: paths) = added columns paths :=
        List.filter_cons_of_neg (by simpa using hcol)
      rw [addPaths, addPath, if_pos (by simpa [hasColumn] using hcol), hadded]
      exact ih hrest columns pairs
    · have hadded : added columns (path :: paths) = path :: added columns paths :=
        List.filter_cons_of_pos (by simpa using hcol)
      -- the new column is none of the paths that are left
      have hlater : added (columns ++ [path]) paths = added columns paths := by
        refine List.filter_congr fun q hq => ?_
        have hne : q ≠ path := fun e => hnot (e ▸ hq)
        simp [hne]
      have hkeep : ∀ values : RowValues, (added columns paths).map (values.erase path).cell
          = (added columns paths).map values.cell := by
        intro values
        refine List.map_congr_left fun q hq => ?_
        have hne : q ≠ path := fun e => hnot (e ▸ (List.mem_filter.mp hq).1)
        exact RowValues.cell_erase hne values
      have hrows : (pairs.map Prod.fst).zipWith (fun row cell => row ++ [cell])
            (pairs.map fun pair => pair.2.cell path)
          = pairs.map fun pair => pair.1 ++ [pair.2.cell path] := by
        rw [List.zipWith_map, List.zipWith_self]
      have hstep := ih hrest (columns ++ [path])
        (pairs.map fun pair => (pair.1 ++ [pair.2.cell path], pair.2.erase path))
      simp only [List.map_map, Function.comp_def, hlater, List.append_assoc,
        List.singleton_append, hkeep] at hstep
      rw [addPaths, addPath, if_neg (by simpa [hasColumn] using hcol), hadded]
      simp only [addColumn, List.map_map, Function.comp_def, List.map_cons]
      rw [hrows]
      exact hstep

/-! ## The flattened table -/

/-- The leaves of a row, whose nested cell is the one at `k`. -/
def entriesOf (separator : String) (k : Nat) (row : Row) : List Leaf :=
  ((row[k]?).map (Cell.entries separator)).getD []

/-- The new columns: the paths of all rows in the order in which they are first met, without those
that are the name of another column. -/
def newPaths (separator : String) (k : Nat) (t : Table) : List String :=
  ((t.rows.flatMap (entriesOf separator k)).map Prod.fst).eraseDups.filter
    (· ∉ t.columns.eraseIdx k)

/-- The table with the column at `k` flattened, said at once. -/
def flattened (separator : String) (k : Nat) (t : Table) : Table :=
  { columns := t.columns.eraseIdx k ++ t.newPaths separator k
    rows := t.rows.map fun row => row.eraseIdx k ++ (t.newPaths separator k).map fun path =>
      .plain ((lastOn path (entriesOf separator k row)).getD .empty) }

theorem leaves_getD (separator : String) (k : Nat) (row : Row) :
    (row.getD k Cell.empty).leaves separator = entriesOf separator k row := by
  unfold entriesOf
  rw [List.getD_eq_getElem?_getD]
  cases row[k]? with
  | none => rfl
  | some cell => exact Cell.leaves_eq_entries separator cell

/-- Flattening the column at `k` by loops gives that table. -/
theorem flatten_at {nested : String} {k : Nat} {t : Table} (separator : String)
    (hk : t.columnIndex? nested = some k) :
    t.flatten nested separator = t.flattened separator k := by
  have hrecords : (t.columnCells k).map (Cell.leaves separator)
      = t.rows.map (entriesOf separator k) := by
    unfold columnCells
    rw [List.map_map]
    exact List.map_congr_left fun row _ => leaves_getD separator k row
  have hpaths : firstMet ((t.rows.map (entriesOf separator k)).flatMap (·.map Prod.fst))
      = ((t.rows.flatMap (entriesOf separator k)).map Prod.fst).eraseDups := by
    rw [firstMet_eq_eraseDups, List.flatMap_map, List.map_flatMap]
  have hloop := addPaths_eq (nodup_firstMet
      ((t.rows.map (entriesOf separator k)).flatMap (·.map Prod.fst)))
    (t.columns.eraseIdx k)
    (t.rows.map fun row => (row.eraseIdx k, RowValues.ofLeaves (entriesOf separator k row)))
  have hcell : ∀ row, (RowValues.ofLeaves (entriesOf separator k row)).cell = fun path =>
      .plain ((lastOn path (entriesOf separator k row)).getD .empty) :=
    fun row => funext fun path => RowValues.cell_ofLeaves _ path
  simp only [List.map_map, Function.comp_def, hcell] at hloop
  unfold flatten
  rw [hk]
  dsimp only
  rw [hrecords, eraseColumn, List.map_map]
  refine hloop.trans ?_
  rw [hpaths]
  rfl

theorem flatten_of_not_mem {nested : String} {t : Table} (separator : String)
    (h : nested ∉ t.columns) : t.flatten nested separator = t := by
  unfold flatten columnIndex?
  rw [List.idxOf?_eq_none_iff.mpr h]

theorem columnIndex?_of_getElem? {t : Table} {name : String} {k : Nat} (hn : t.columns.Nodup)
    (h : t.columns[k]? = some name) : t.columnIndex? name = some k := by
  obtain ⟨hk, hname⟩ := List.getElem?_eq_some_iff.mp h
  unfold columnIndex?
  rw [List.idxOf?_eq_some_iff]
  refine ⟨hk, hname, fun j hj e => ?_⟩
  have hjk : j = k := (List.Nodup.getElem_inj_iff hn).mp (e.trans hname.symm)
  omega

/-- Without a nested column flattening does nothing, and there is no third case. -/
theorem flatten_cases (nested separator : String) (t : Table) :
    (nested ∉ t.columns ∧ t.flatten nested separator = t) ∨
      ∃ k, t.columns[k]? = some nested ∧ t.flatten nested separator = t.flattened separator k := by
  cases hk : t.columnIndex? nested with
  | none =>
    have hnot : nested ∉ t.columns := List.idxOf?_eq_none_iff.mp hk
    exact Or.inl ⟨hnot, flatten_of_not_mem separator hnot⟩
  | some k =>
    obtain ⟨hlt, hname, -⟩ := List.idxOf?_eq_some_iff.mp hk
    exact Or.inr ⟨k, List.getElem?_eq_some_iff.mpr ⟨hlt, hname⟩, flatten_at separator hk⟩

/-- The new columns are the paths of the rows that are not the name of another column. -/
theorem mem_newPaths_iff {separator : String} {k : Nat} {t : Table} {path : String} :
    path ∈ t.newPaths separator k ↔
      (∃ row ∈ t.rows, path ∈ (entriesOf separator k row).map Prod.fst) ∧
        path ∉ t.columns.eraseIdx k := by
  unfold newPaths
  rw [List.mem_filter, List.mem_eraseDups, List.map_flatMap, List.mem_flatMap, decide_eq_true_iff]

/-- **Flattening is the flattened table.** The nested column may stand anywhere, and without one
nothing is changed. -/
theorem flatten_eq_flattened (nested separator : String) (t : Table) (h : t.WellFormed) :
    (∀ k, t.columns[k]? = some nested → t.flatten nested separator = t.flattened separator k) ∧
      (nested ∉ t.columns → t.flatten nested separator = t) := by
  refine ⟨fun k hk => ?_, fun hnot => flatten_of_not_mem separator hnot⟩
  exact flatten_at separator (columnIndex?_of_getElem? h.nodup_columns hk)

/-- A path that is taken, a path that two leaves share, and a row without a record. -/
theorem flatten_eq_flattened_taken_and_shared :
    let t : Table :=
      { columns := ["a", "More", "b"]
        rows := [
          [.text "1", .record [("b", .string "x"), ("c", .object [("d", .string "y")]),
            ("c.d", .string "z")], .text "2"],
          [.text "3", .text "no record", .empty]] }
    t.WellFormed ∧ t.columns[1]? = some "More" ∧
      t.flatten "More" "." =
        { columns := ["a", "b", "c.d"]
          rows := [[.text "1", .text "2", .text "z"], [.text "3", .empty, .empty]] } := by
  refine ⟨by decide, rfl, ?_⟩
  rw [(flatten_eq_flattened "More" "." _ (by decide)).1 1 rfl]
  decide

end Table

end TidyTable
