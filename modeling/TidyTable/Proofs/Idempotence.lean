import TidyTable.Proofs.Invariant

/-!
# Flattening twice

Flattening takes the nested column out and puts plain values into the new columns. So there is
nothing left to flatten, and a second time should change nothing. It does in one case. A path may
spell the name of the nested column. The nested column itself is gone when the paths are compared
with the names that are there, so the path becomes a column, and the second time this column is
taken for the nested one. Its cells are plain and no record is found in them; the column is removed
with all of its values.

After that the name is not there any more, because a path is made a column only once, and a third
time changes nothing.
-/

namespace TidyTable.Table

variable {nested separator : String} {t : Table}

/-- A leaf of the nested column stands on a path that spells the name of this column. -/
def HasOwnPath (nested separator : String) (t : Table) : Prop :=
  ∃ (k : Nat) (row : Row), t.columns[k]? = some nested ∧ row ∈ t.rows ∧
    nested ∈ (entriesOf separator k row).map Prod.fst

/-! ## Columns without records -/

theorem entriesOf_eq_nil {k : Nat} {row : Row}
    (h : ∀ cell, row[k]? = some cell → ∃ value, cell = .plain value) :
    entriesOf separator k row = [] := by
  unfold entriesOf
  cases hcell : row[k]? with
  | none => rfl
  | some cell =>
    obtain ⟨value, rfl⟩ := h cell hcell
    rfl

/-- Without leaves there are no new columns, and the old one is removed all the same. -/
theorem flattened_of_no_entries {k : Nat}
    (h : ∀ row ∈ t.rows, entriesOf separator k row = []) :
    t.flattened separator k = t.eraseColumn k := by
  have hnone : t.rows.flatMap (entriesOf separator k) = [] := List.flatMap_eq_nil_iff.mpr h
  have hpaths : t.newPaths separator k = [] := by
    unfold newPaths
    rw [hnone]
    rfl
  unfold flattened eraseColumn
  rw [hpaths]
  simp

/-! ## The flattened table -/

/-- Whatever stands behind the columns that were kept is plain. -/
theorem entriesOf_flattened (ht : t.WellFormed) {k i : Nat} (hk : t.columns[k]? = some nested)
    (hi : (t.flattened separator k).columns[i]? = some nested) {row : Row}
    (hrow : row ∈ (t.flattened separator k).rows) : entriesOf separator i row = [] := by
  obtain ⟨old, hold, rfl⟩ := List.mem_map.mp hrow
  have hlen : (old.eraseIdx k).length = (t.columns.eraseIdx k).length := by
    rw [List.length_eraseIdx, List.length_eraseIdx, ht.length_row old hold]
  have hbehind : (t.columns.eraseIdx k).length ≤ i := by
    by_contra hlt
    have hkept : (t.columns.eraseIdx k)[i]? = some nested := by
      rw [← hi]
      exact (List.getElem?_append_left (by omega)).symm
    exact ht.not_mem_eraseIdx hk (List.mem_of_getElem? hkept)
  refine entriesOf_eq_nil fun cell hcell => ?_
  rw [List.getElem?_append_right (by omega), List.getElem?_map] at hcell
  obtain ⟨path, -, rfl⟩ := Option.map_eq_some_iff.mp hcell
  exact ⟨_, rfl⟩

/-- **The second time only takes away.** A column that came under the name of the nested one is
removed, and nothing is put in its place. -/
theorem flatten_flatten_at (ht : t.WellFormed) {i : Nat}
    (hi : (t.flatten nested separator).columns[i]? = some nested) :
    (t.flatten nested separator).flatten nested separator
      = (t.flatten nested separator).eraseColumn i := by
  have hplace : (t.flatten nested separator).columnIndex? nested = some i :=
    columnIndex?_of_getElem? (ht.flatten nested separator).nodup_columns hi
  rw [flatten_at separator hplace]
  rcases flatten_cases nested separator t with ⟨hnot, hflat⟩ | ⟨k, hk, hflat⟩
  · rw [hflat] at hi
    exact absurd (List.mem_of_getElem? hi) hnot
  · rw [hflat] at hi ⊢
    refine flattened_of_no_entries fun row hrow => ?_
    exact entriesOf_flattened ht hk hi hrow

/-- The name of the nested column comes back exactly by a path that spells it. -/
theorem nested_mem_flatten_iff (ht : t.WellFormed) :
    nested ∈ (t.flatten nested separator).columns ↔ t.HasOwnPath nested separator := by
  rcases flatten_cases nested separator t with ⟨hnot, hflat⟩ | ⟨k, hk, hflat⟩
  · rw [hflat]
    constructor
    · intro hmem
      exact absurd hmem hnot
    · rintro ⟨k, row, hk, -⟩
      exact absurd (List.mem_of_getElem? hk) hnot
  · have hold : nested ∉ t.columns.eraseIdx k := ht.not_mem_eraseIdx hk
    rw [hflat, flattened, List.mem_append, or_iff_right hold, mem_newPaths_iff,
      and_iff_left hold]
    constructor
    · rintro ⟨row, hrow, hpath⟩
      exact ⟨k, row, hk, hrow, hpath⟩
    · rintro ⟨i, row, hi, hrow, hpath⟩
      obtain rfl := ht.place_unique hk hi
      exact ⟨row, hrow, hpath⟩

theorem nested_not_mem_flatten_flatten (ht : t.WellFormed) :
    nested ∉ ((t.flatten nested separator).flatten nested separator).columns := by
  by_cases hmem : nested ∈ (t.flatten nested separator).columns
  · obtain ⟨i, hi⟩ := List.mem_iff_getElem?.mp hmem
    rw [flatten_flatten_at ht hi]
    exact (ht.flatten nested separator).not_mem_eraseIdx hi
  · rwa [flatten_of_not_mem separator hmem]

/-- **Flattening twice is flattening once, unless a path spells the name of the nested column.** If
one does, the second time removes the column of this path and changes nothing else, and from then on
nothing is changed any more. -/
theorem flatten_flatten_eq_iff (nested separator : String) (ht : t.WellFormed) :
    ((t.flatten nested separator).flatten nested separator = t.flatten nested separator ↔
        ¬ t.HasOwnPath nested separator) ∧
      (∀ i, (t.flatten nested separator).columns[i]? = some nested →
        (t.flatten nested separator).flatten nested separator
          = (t.flatten nested separator).eraseColumn i) ∧
      ((t.flatten nested separator).flatten nested separator).flatten nested separator
        = (t.flatten nested separator).flatten nested separator := by
  refine ⟨?_, fun i hi => flatten_flatten_at ht hi,
    flatten_of_not_mem separator (nested_not_mem_flatten_flatten ht)⟩
  rw [← nested_mem_flatten_iff ht]
  constructor
  · intro hsame hmem
    exact nested_not_mem_flatten_flatten ht (hsame ▸ hmem)
  · exact flatten_of_not_mem separator

/-- Two keys that spell the name only with the separator between them, in a record that also has a
path that gives way to a column. -/
theorem flatten_flatten_eq_iff_joined_keys :
    let t : Table :=
      { columns := ["a.b", "x"]
        rows := [[.record [("a", .object [("b", .string "1")]), ("x", .string "2")], .text "3"],
          [.record [("y", .string "4")], .empty]] }
    let once := t.flatten "a.b" "."
    t.WellFormed ∧
      once = { columns := ["x", "a.b", "y"]
               rows := [[.text "3", .text "1", .empty], [.empty, .empty, .text "4"]] } ∧
      (once.flatten "a.b" "." = once ↔ ¬ t.HasOwnPath "a.b" ".") ∧
      (∀ i, once.columns[i]? = some "a.b" → once.flatten "a.b" "." = once.eraseColumn i) ∧
      (once.flatten "a.b" ".").flatten "a.b" "." = once.flatten "a.b" "." := by
  intro t once
  have ht : t.WellFormed := by decide
  have honce : once = { columns := ["x", "a.b", "y"]
                        rows := [[.text "3", .text "1", .empty], [.empty, .empty, .text "4"]] } := by
    decide
  exact ⟨ht, honce, flatten_flatten_eq_iff "a.b" "." ht⟩

/-- **A value under the name of the nested column does not last.** It is a column after the first
time, and the second time it is lost. -/
theorem flatten_flatten_ne_own_name :
    let t : Table :=
      { columns := ["A", "More"], rows := [[.text "a", .record [("More", .string "x")]]] }
    let once : Table := { columns := ["A", "More"], rows := [[.text "a", .text "x"]] }
    t.WellFormed ∧ t.flatten "More" "." = once ∧
      once.flatten "More" "." = { columns := ["A"], rows := [[.text "a"]] } ∧
      (t.flatten "More" ".").flatten "More" "." ≠ t.flatten "More" "." := by
  decide

end TidyTable.Table
