import Mathlib.Data.List.Forall2
import TidyTable.Proofs.Sheet.Rectangle

/-!
# The places of a grid

The places of a grid go on to the right and below, and there is nothing in those behind the end of
a row or below the last one. So two grids can have the same values in all places and still be
stored in different ways, with more or fewer empty values behind the others. Reading does not tell
them apart: what is used of a grid depends on nothing but its places (`used_congr`).
-/

namespace TidyTable

variable {α : Type}

/-- Dropping from the end reaches the first element only if nothing is left behind it. -/
theorem rdropWhile_cons (p : α → Bool) (x : α) (xs : List α) : (x :: xs).rdropWhile p =
    if xs.rdropWhile p = [] ∧ p x = true then [] else x :: xs.rdropWhile p := by
  induction xs using List.reverseRecOn with
  | nil => simp [List.rdropWhile_singleton]
  | append_singleton xs y ih =>
    rw [← List.cons_append, List.rdropWhile_concat, List.rdropWhile_concat]
    by_cases hy : p y = true
    · rw [if_pos hy, if_pos hy, ih]
    · simp [hy]

/-- The elements of two lists are related one by one, and so are those that are kept from both when
the end is dropped. Behind the end of a list stands what would be dropped. -/
theorem forall₂_rdropWhile {R : α → α → Prop} {p : α → Bool} {d : α} (hd : p d = true)
    (hp : ∀ x y, R x y → p x = p y) {xs ys : List α}
    (h : ∀ i : Nat, R (xs[i]?.getD d) (ys[i]?.getD d)) :
    List.Forall₂ R (xs.rdropWhile p) (ys.rdropWhile p) := by
  have hnil (zs : List α) (hz : ∀ i : Nat, p (zs[i]?.getD d) = true) : zs.rdropWhile p = [] := by
    rw [List.rdropWhile_eq_nil_iff]
    intro z hmem
    obtain ⟨i, hi⟩ := List.mem_iff_getElem?.mp hmem
    have hdropped := hz i
    rwa [hi] at hdropped
  induction xs generalizing ys with
  | nil =>
    have hys : ys.rdropWhile p = [] := hnil ys fun i => (hp _ _ (h i)).symm.trans hd
    rw [hys, List.rdropWhile_nil]
    exact .nil
  | cons x xs ih =>
    cases ys with
    | nil =>
      have hxs : (x :: xs).rdropWhile p = [] := hnil _ fun i => (hp _ _ (h i)).trans hd
      rw [hxs, List.rdropWhile_nil]
      exact .nil
    | cons y ys =>
      have hxy : R x y := h 0
      -- one list keeps nothing behind its first element exactly if the other does
      have hrest := ih fun i => h (i + 1)
      have hiff : (xs.rdropWhile p = [] ∧ p x = true) ↔ (ys.rdropWhile p = [] ∧ p y = true) := by
        rw [← List.length_eq_zero_iff, ← List.length_eq_zero_iff, hrest.length_eq, hp x y hxy]
      rw [rdropWhile_cons, rdropWhile_cons]
      by_cases hx : xs.rdropWhile p = [] ∧ p x = true
      · rw [if_pos hx, if_pos (hiff.mp hx)]
        exact .nil
      · rw [if_neg hx, if_neg (mt hiff.mpr hx)]
        exact .cons hxy hrest

namespace Grid

variable {c g : Grid} {row other : List Scalar} {s w : Nat}

/-- There is one empty value. -/
theorem isEmpty_iff {v : Scalar} : v.isEmpty = true ↔ v = .empty := by
  cases v <;> simp [Scalar.isEmpty]

/-! ## Rows -/

/-- The value in a place of a row. -/
def place (row : List Scalar) (j : Nat) : Scalar := row[j]?.getD .empty

/-- Two rows have the same values in all places. -/
def Alike (row other : List Scalar) : Prop := ∀ j, place row j = place other j

/-- A row is blank if there is nothing in its places. -/
theorem isBlank_iff : isBlank row = true ↔ ∀ j, place row j = .empty := by
  unfold isBlank place
  rw [List.all_eq_true]
  constructor
  · intro h j
    cases hv : row[j]? with
    | none => rfl
    | some v => exact isEmpty_iff.mp (h v (List.mem_of_getElem? hv))
  · intro h v hv
    obtain ⟨j, hj⟩ := List.mem_iff_getElem?.mp hv
    have hempty := h j
    rw [hj] at hempty
    exact isEmpty_iff.mpr hempty

/-- A row that is not blank begins with as many empty places as it has blanks. -/
theorem le_blanks_iff (h : isBlank row = false) :
    s ≤ blanks row ↔ ∀ j < s, place row j = .empty := by
  induction row generalizing s with
  | nil => exact absurd h nofun
  | cons v row ih =>
    rw [blanks_cons]
    cases hv : v.isEmpty with
    | true =>
      have hrow : isBlank row = false := by
        unfold isBlank at h ⊢
        rwa [List.all_cons, hv, Bool.true_and] at h
      rw [if_pos rfl]
      cases s with
      | zero => simp
      | succ s =>
        rw [Nat.add_le_add_iff_right, ih hrow]
        constructor
        · intro hplaces j hj
          cases j with
          | zero => exact isEmpty_iff.mp hv
          | succ j => exact hplaces j (Nat.lt_of_succ_lt_succ hj)
        · intro hplaces j hj
          exact hplaces (j + 1) (Nat.succ_lt_succ hj)
    | false =>
      rw [if_neg Bool.false_ne_true]
      constructor
      · intro hs j hj
        omega
      · intro hplaces
        rcases Nat.eq_zero_or_pos s with hs | hs
        · exact Nat.le_of_eq hs
        · have hempty := isEmpty_iff.mpr (hplaces 0 hs)
          exact absurd (hv.symm.trans hempty) Bool.false_ne_true

/-- What is cut from a row are the values of a range of places. -/
theorem cut_eq_map_range (s w : Nat) (row : List Scalar) :
    cut s w row = (List.range (w - s)).map fun k => place row (s + k) := by
  have hkept : ((row.take w).drop s).length = min w row.length - s := by
    rw [List.length_drop, List.length_take]
  unfold cut place
  dsimp only
  refine List.ext_getElem ?_ fun k hk hrange => ?_
  · rw [List.length_append, List.length_replicate, List.length_map, List.length_range, hkept]
    omega
  · rw [List.length_map, List.length_range] at hrange
    rw [List.getElem_map, List.getElem_range]
    by_cases hin : k < ((row.take w).drop s).length
    · rw [List.getElem_append_left hin, List.getElem_drop, List.getElem_take,
        List.getElem?_eq_getElem (by omega), Option.getD_some]
    · rw [List.getElem_append_right (Nat.not_lt.mp hin), List.getElem_replicate,
        List.getElem?_eq_none (by omega), Option.getD_none]

namespace Alike

variable (h : Alike row other)

include h

/-- Rows alike are blank together. -/
theorem isBlank : isBlank row = Grid.isBlank other := by
  rw [Bool.eq_iff_iff, isBlank_iff, isBlank_iff]
  exact forall_congr' fun j => by rw [h j]

/-- They end in the same place. -/
theorem reach : reach row = Grid.reach other := by
  have hlength (row : List Scalar) :
      Grid.reach row = (row.rdropWhile Scalar.isEmpty).length := by
    have hsplit := congrArg List.length
      (List.takeWhile_append_dropWhile (p := Scalar.isEmpty) (l := row.reverse))
    rw [List.length_append, List.length_reverse] at hsplit
    unfold Grid.reach blanks List.rdropWhile
    rw [List.length_reverse]
    omega
  have hsame := forall₂_rdropWhile (R := (· = ·)) (p := Scalar.isEmpty) (d := .empty) rfl
    (fun _ _ e => congrArg _ e) h
  rw [hlength, hlength, hsame.length_eq]

/-- They begin with as many blanks. -/
theorem blanks (hrow : Grid.isBlank row = false) : blanks row = Grid.blanks other := by
  have hiff (s : Nat) : s ≤ Grid.blanks row ↔ s ≤ Grid.blanks other := by
    rw [le_blanks_iff hrow, le_blanks_iff (h.isBlank ▸ hrow)]
    exact forall₂_congr fun j _ => by rw [h j]
  exact Nat.le_antisymm ((hiff _).mp (Nat.le_refl _)) ((hiff _).mpr (Nat.le_refl _))

/-- The same is cut from them. -/
theorem cut (s w : Nat) : cut s w row = Grid.cut s w other := by
  rw [cut_eq_map_range, cut_eq_map_range]
  exact List.map_congr_left fun k _ => h (s + k)

end Alike

/-! ## Grids -/

/-- The value in a place of a grid. -/
def value (g : Grid) (i j : Nat) : Scalar := place (g[i]?.getD []) j

/-- A grid that is made place by place has the values that are made of what stands there. -/
theorem value_map {f : α → Scalar} {d : α} (hd : f d = .empty) (rows : List (List α))
    (i j : Nat) : value (rows.map (·.map f)) i j = f ((rows[i]?.getD [])[j]?.getD d) := by
  unfold value place
  rw [List.getElem?_map]
  cases rows[i]? with
  | none => exact hd.symm
  | some row =>
    rw [Option.map_some, Option.getD_some, Option.getD_some, List.getElem?_map]
    cases row[j]? with
    | none => exact hd.symm
    | some x => rfl

/-- Of grids alike, the same rows are left when the end is dropped, and they are alike. -/
theorem forall₂_dropBelow (h : ∀ i j, c.value i j = g.value i j) :
    List.Forall₂ Alike c.dropBelow g.dropBelow := by
  rw [dropBelow_eq_rdropWhile, dropBelow_eq_rdropWhile]
  exact forall₂_rdropWhile (d := []) rfl (fun _ _ hrow => hrow.isBlank) h

/-- So are they when the blank rows at the top are dropped. -/
theorem forall₂_dropWhile (h : List.Forall₂ Alike c g) :
    List.Forall₂ Alike (c.dropWhile isBlank) (g.dropWhile isBlank) := by
  induction h with
  | nil => exact .nil
  | @cons row other c g hrow hrest ih =>
    rw [List.dropWhile_cons, List.dropWhile_cons, hrow.isBlank]
    split
    · exact ih
    · exact .cons hrow hrest

/-- Rows alike are as wide. -/
theorem width_congr (h : List.Forall₂ Alike c g) : width c = width g := by
  unfold width
  generalize 0 = w
  induction h generalizing w with
  | nil => rfl
  | cons hrow _ ih => rw [List.foldl_cons, List.foldl_cons, hrow.reach, ih]

/-- The first column that is used is the same. -/
theorem start_congr (h : List.Forall₂ Alike c g) : start c = start g := by
  unfold start
  rw [width_congr h]
  generalize width g = s
  induction h generalizing s with
  | nil => rfl
  | @cons row other c g hrow _ ih =>
    have hstep : (if isBlank row then s else min s (blanks row)) =
        if isBlank other then s else min s (blanks other) := by
      rw [← hrow.isBlank]
      cases hblank : isBlank row with
      | true => rfl
      | false => rw [hrow.blanks hblank]
    rw [List.foldl_cons, List.foldl_cons, hstep, ih]

/-- **What is used of a grid depends on nothing but its places.** -/
theorem used_congr (h : ∀ i j, c.value i j = g.value i j) : c.used = g.used := by
  have hrows := forall₂_dropWhile (forall₂_dropBelow h)
  unfold used
  dsimp only
  rw [width_congr hrows, start_congr hrows]
  generalize start (g.dropBelow.dropWhile isBlank) = s, width (g.dropBelow.dropWhile isBlank) = w
  generalize c.dropBelow.dropWhile isBlank = c', g.dropBelow.dropWhile isBlank = g' at hrows ⊢
  induction hrows with
  | nil => rfl
  | cons hrow _ ih => rw [List.map_cons, List.map_cons, hrow.cut, ih]

end Grid

end TidyTable
