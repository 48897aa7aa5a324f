import Mathlib.Data.List.DropRight
import TidyTable.Sheet.Basic

/-!
# The rectangle that is used

Writing keeps the part of a grid up to the last row and column that hold something, and reading
keeps the part from the first ones on as well. A grid that is `Framed` has rows of one length, and
neither its last row nor its last column is blank; so nothing is cut off from it below or on the
right. What reading may cut off are blank rows above and blank columns on the left
(`Framed.used`), and this depends on the grid.
-/

namespace TidyTable.Grid

variable {g : Grid} {row : List Scalar} {v : Scalar} {s w : Nat}

/-! ## Rows -/

/-- Blanks are counted up to the first value. -/
theorem blanks_cons (v : Scalar) (row : List Scalar) :
    blanks (v :: row) = if v.isEmpty then blanks row + 1 else 0 := by
  unfold blanks
  rw [List.takeWhile_cons]
  cases v.isEmpty <;> rfl

theorem reach_le_length (row : List Scalar) : reach row ≤ row.length := Nat.sub_le _ _

/-- A row that ends in something reaches to its end. -/
theorem reach_concat (row : List Scalar) (hv : v.isEmpty = false) :
    reach (row ++ [v]) = row.length + 1 := by
  unfold reach
  rw [List.reverse_concat, blanks_cons, hv, if_neg Bool.false_ne_true, List.length_append]
  rfl

@[simp] theorem length_cut (s w : Nat) (row : List Scalar) : (cut s w row).length = w - s := by
  unfold cut
  rw [List.length_append, List.length_replicate, List.length_drop, List.length_take]
  omega

/-- Of a row of the right length only the front is cut off. -/
theorem cut_of_length (h : row.length = w) (s : Nat) : cut s w row = row.drop s := by
  unfold cut
  dsimp only
  rw [List.take_of_length_le (Nat.le_of_eq h), List.length_drop, h, Nat.sub_self,
    List.replicate_zero, List.append_nil]

/-! ## Columns -/

/-- The width is the least that all rows keep to. -/
theorem width_le_iff : width g ≤ w ↔ ∀ row ∈ g, reach row ≤ w := by
  have hfold (m : Nat) : g.foldl (fun w row => max w (reach row)) m ≤ w ↔
      m ≤ w ∧ ∀ row ∈ g, reach row ≤ w := by
    induction g generalizing m with
    | nil => simp
    | cons row g ih => rw [List.foldl_cons, ih, Nat.max_le, List.forall_mem_cons, and_assoc]
  unfold width
  rw [hfold, and_iff_right (Nat.zero_le w)]

/-- The first column is the greatest that leaves nothing out on the left. -/
theorem le_start_iff : s ≤ start g ↔
    s ≤ width g ∧ ∀ row ∈ g, isBlank row = false → s ≤ blanks row := by
  have hfold (m : Nat) :
      s ≤ g.foldl (fun s row => if isBlank row then s else min s (blanks row)) m ↔
        s ≤ m ∧ ∀ row ∈ g, isBlank row = false → s ≤ blanks row := by
    induction g generalizing m with
    | nil => simp
    | cons row g ih =>
      rw [List.foldl_cons, ih, List.forall_mem_cons]
      cases isBlank row with
      | true => simp
      | false => simp only [Bool.false_eq_true, ↓reduceIte, Nat.le_min, and_assoc, forall_const]
  exact hfold (width g)

/-- The first column is used if some row has something in it. -/
theorem start_eq_zero (hmem : row ∈ g) (hrow : isBlank row = false) (hblanks : blanks row = 0) :
    start g = 0 := by
  have hle := (le_start_iff.mp (Nat.le_refl (start g))).2 row hmem hrow
  omega

/-! ## Grids -/

theorem dropBelow_eq_rdropWhile (g : Grid) : dropBelow g = g.rdropWhile isBlank := rfl

theorem length_dropBelow_le (g : Grid) : (dropBelow g).length ≤ g.length := by
  have hfront := List.rdropWhile_prefix isBlank g
  exact hfront.length_le

/-- Blank rows above are not used. -/
theorem used_cons_of_isBlank (h : isBlank row = true) (g : Grid) : used (row :: g) = used g := by
  have hdrop : (dropBelow (row :: g)).dropWhile isBlank = (dropBelow g).dropWhile isBlank := by
    simp only [dropBelow_eq_rdropWhile]
    induction g using List.reverseRecOn with
    | nil => rw [List.rdropWhile_singleton, if_pos h, List.rdropWhile_nil]
    | append_singleton g last ih =>
      rw [← List.cons_append, List.rdropWhile_concat, List.rdropWhile_concat]
      split
      · exact ih
      · rw [List.cons_append, List.dropWhile_cons_of_pos h]
  unfold used
  rw [hdrop]

/-- All rows that are used have one length. -/
theorem exists_length_used (g : Grid) : ∃ w, ∀ row ∈ used g, row.length = w := by
  let rest := (dropBelow g).dropWhile isBlank
  refine ⟨width rest - start rest, fun row hrow => ?_⟩
  obtain ⟨r, _, rfl⟩ := List.mem_map.mp hrow
  exact length_cut (start rest) (width rest) r

theorem length_fromCorner_le (g : Grid) : (fromCorner g).length ≤ g.length := by
  unfold fromCorner
  rw [List.length_map]
  exact length_dropBelow_le g

theorem length_used_le (g : Grid) : (used g).length ≤ g.length := by
  unfold used
  rw [List.length_map]
  exact Nat.le_trans (List.dropWhile_suffix isBlank).length_le (length_dropBelow_le g)

/-- All rows are `w` values long, and neither the last row nor the last column is blank. -/
structure Framed (w : Nat) (g : Grid) : Prop where
  length_row : ∀ row ∈ g, row.length = w
  last_row : ∀ h : g ≠ [], isBlank (g.getLast h) = false
  last_column : ∃ row ∈ g, reach row = w

namespace Framed

theorem dropBelow (h : Framed w g) : g.dropBelow = g := by
  rw [dropBelow_eq_rdropWhile, List.rdropWhile_eq_self_iff]
  exact fun hne => by rw [h.last_row hne]; exact Bool.false_ne_true

theorem width (h : Framed w g) : g.width = w := by
  refine Nat.le_antisymm (width_le_iff.mpr fun row hrow => ?_) ?_
  · exact h.length_row row hrow ▸ reach_le_length row
  · obtain ⟨row, hrow, hreach⟩ := h.last_column
    exact hreach ▸ width_le_iff.mp (Nat.le_refl _) row hrow

/-- **Such a grid is written as it is.** -/
theorem fromCorner (h : Framed w g) : g.fromCorner = g := by
  unfold Grid.fromCorner
  dsimp only
  rw [h.dropBelow, h.width]
  refine (List.map_congr_left fun row hrow => ?_).trans (List.map_id g)
  exact cut_of_length (h.length_row row hrow) 0

/-- **It is read without the blank columns on the left** if its first row is not blank. -/
theorem used (h : Framed w g) (hfirst : ∀ h : g ≠ [], isBlank (g.head h) = false) :
    g.used = g.map (·.drop g.start) := by
  have hdrop : g.dropWhile isBlank = g := by
    cases g with
    | nil => rfl
    | cons row g =>
      refine List.dropWhile_cons_of_neg ?_
      rw [show isBlank row = false from hfirst (List.cons_ne_nil row g)]
      exact Bool.false_ne_true
  unfold Grid.used
  dsimp only
  rw [h.dropBelow, hdrop, h.width]
  exact List.map_congr_left fun row hrow => cut_of_length (h.length_row row hrow) g.start

/-- It is read as it is if there is something in its first row and in its first column. -/
theorem used_eq_self (h : Framed w g) (hfirst : ∀ h : g ≠ [], isBlank (g.head h) = false)
    (hmem : row ∈ g) (hrow : isBlank row = false) (hblanks : blanks row = 0) : g.used = g := by
  rw [h.used hfirst, start_eq_zero hmem hrow hblanks]
  exact List.map_id g

end Framed

end TidyTable.Grid
