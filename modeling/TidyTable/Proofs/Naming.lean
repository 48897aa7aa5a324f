import Mathlib.Data.List.Nodup
import Mathlib.Data.List.Perm.Subperm
import TidyTable.Table.Header

/-!
# Column names are distinct

Each step of `normalize` gives a name that is free, so the names are distinct, and each is made from
its header, so none is blank. The one thing to see is that a free number is always found. Numbers
make distinct names, and there are only so many names that are taken: with one more number than
that, not all of them can be.

Headers that need no renaming keep their texts. That is what makes a table that was written come
back under its own names, with the blank header of the row index as the only one that gets a name.
-/

namespace TidyTable.Header

/-! ## Numbered names -/

theorem naturalText_injective {m n : Nat}
    (h : Decimal.naturalText m = Decimal.naturalText n) : m = n := by
  have hd : Decimal.digits m = Decimal.digits n := String.ofList_injective h
  rw [← Decimal.value_digits m, hd, Decimal.value_digits]

theorem numbered_injective {base : String} {j k : Nat} (h : numbered base j = numbered base k) :
    j = k := by
  unfold numbered at h
  exact naturalText_injective ((String.append_right_inj _).mp h)

theorem numbered_ne_empty (base : String) (k : Nat) : numbered base k ≠ "" := by
  intro h
  have hl := congrArg String.toList h
  simp [numbered] at hl

theorem base_ne_empty (raw : String) (place : Nat) : base raw place ≠ "" := by
  unfold base
  split
  · intro h
    have hl := congrArg String.toList h
    simp [unnamed] at hl
  · rename_i h
    intro e
    exact h (by rw [e]; rfl)

theorem base_of_ne_empty {raw : String} (h : raw ≠ "") (place : Nat) : base raw place = raw := by
  unfold base
  rw [String.isEmpty_eq_false_iff.mpr h, if_neg Bool.false_ne_true]

namespace Naming

/-- The search goes up from `k` over names that are taken, and stops at a free one unless its tries
run out. -/
theorem firstFree_spec (taken : List String) (base : String) (tries k : Nat) :
    ∃ j, firstFree taken base k tries = k + j ∧ j ≤ tries ∧
      (∀ i, i < j → numbered base (k + i) ∈ taken) ∧
      (j < tries → numbered base (k + j) ∉ taken) := by
  induction tries generalizing k with
  | zero => exact ⟨0, rfl, Nat.le_refl 0, fun i hi => by omega, fun h => by omega⟩
  | succ tries ih =>
    rw [firstFree]
    split
    · rename_i hk
      -- one number more was tried than from the next one on
      obtain ⟨j, hj, hle, htaken, hfree⟩ := ih (k + 1)
      refine ⟨j + 1, by rw [hj]; omega, by omega, fun i hi => ?_, fun h => ?_⟩
      · cases i with
        | zero => exact hk
        | succ i =>
          have hi' := htaken i (by omega)
          rwa [Nat.add_right_comm] at hi'
      · have hj' := hfree (by omega)
        rwa [Nat.add_right_comm] at hj'
    · rename_i hk
      exact ⟨0, rfl, by omega, fun i hi => by omega, fun _ => hk⟩

/-- As many numbers as there are taken names, and one more, cannot all be taken. -/
theorem exists_free (taken : List String) (base : String) (k : Nat) :
    ¬ ∀ i, i < taken.length + 1 → numbered base (k + i) ∈ taken := by
  intro h
  have hnodup : ((List.range (taken.length + 1)).map fun i => numbered base (k + i)).Nodup := by
    refine List.Nodup.map (fun i j hij => ?_) List.nodup_range
    have := numbered_injective hij
    omega
  have hsub : ((List.range (taken.length + 1)).map fun i => numbered base (k + i)) ⊆ taken := by
    intro name hname
    obtain ⟨i, hi, rfl⟩ := List.mem_map.mp hname
    exact h i (List.mem_range.mp hi)
  have hlen := (List.subperm_of_subset hnodup hsub).length_le
  rw [List.length_map, List.length_range] at hlen
  omega

/-- A try for each taken name is enough, and more do no harm. -/
theorem firstFree_not_mem {taken : List String} {tries : Nat} (h : taken.length ≤ tries)
    (base : String) (k : Nat) : numbered base (firstFree taken base k tries) ∉ taken := by
  obtain ⟨j, hj, hle, htaken, hfree⟩ := firstFree_spec taken base tries k
  rw [hj]
  rcases Nat.lt_or_ge j tries with hlt | hge
  · exact hfree hlt
  · -- the tries ran out, so more numbers than names would be taken
    intro hmem
    refine exists_free taken base k fun i hi => ?_
    rcases Nat.lt_or_ge i j with hi' | hi'
    · exact htaken i hi'
    · rwa [show i = j by omega]

/-- What one more name does: it is free, and it is taken from then on. -/
theorem next_spec (naming : Naming) (b : String) :
    (naming.next b).1 ∉ naming.taken ∧
      (naming.next b).2.taken = (naming.next b).1 :: naming.taken := by
  unfold next
  split
  · exact ⟨firstFree_not_mem (Nat.le_refl _) _ _, rfl⟩
  · rename_i h
    exact ⟨h, rfl⟩

/-- A base that is free is the name. -/
theorem next_of_not_mem {naming : Naming} {b : String} (h : b ∉ naming.taken) :
    (naming.next b).2.taken = b :: naming.taken := by
  unfold next
  rw [if_neg h]

theorem next_ne_empty {naming : Naming} {b : String} (hb : b ≠ "") : (naming.next b).1 ≠ "" := by
  unfold next
  split
  · exact numbered_ne_empty _ _
  · exact hb

/-- Names a list of bases, one after another. -/
def all (naming : Naming) (bases : List String) : Naming :=
  bases.foldl (fun naming b => (naming.next b).2) naming

theorem all_cons (naming : Naming) (b : String) (bases : List String) :
    naming.all (b :: bases) = (naming.next b).2.all bases := rfl

theorem nodup_all {naming : Naming} (h : naming.taken.Nodup) (bases : List String) :
    (naming.all bases).taken.Nodup := by
  induction bases generalizing naming with
  | nil => exact h
  | cons b bases ih =>
    obtain ⟨hfree, htaken⟩ := naming.next_spec b
    rw [all_cons]
    exact ih (by rw [htaken]; exact List.nodup_cons.mpr ⟨hfree, h⟩)

@[simp] theorem length_all (naming : Naming) (bases : List String) :
    (naming.all bases).taken.length = naming.taken.length + bases.length := by
  induction bases generalizing naming with
  | nil => rfl
  | cons b bases ih =>
    rw [all_cons, ih, (naming.next_spec b).2, List.length_cons, List.length_cons]
    omega

theorem all_ne_empty {naming : Naming} (h : ∀ name ∈ naming.taken, name ≠ "")
    {bases : List String} (hb : ∀ b ∈ bases, b ≠ "") :
    ∀ name ∈ (naming.all bases).taken, name ≠ "" := by
  induction bases generalizing naming with
  | nil => exact h
  | cons b bases ih =>
    rw [all_cons]
    refine ih ?_ fun x hx => hb x (List.mem_cons_of_mem _ hx)
    rw [(naming.next_spec b).2]
    intro name hname
    rcases List.mem_cons.mp hname with rfl | hmem
    · exact next_ne_empty (hb b List.mem_cons_self)
    · exact h name hmem

/-- Names that are taken stay taken, in their order. -/
theorem exists_taken_all (naming : Naming) (bases : List String) :
    ∃ names, (naming.all bases).taken = names ++ naming.taken := by
  induction bases generalizing naming with
  | nil => exact ⟨[], rfl⟩
  | cons b bases ih =>
    obtain ⟨names, hnames⟩ := ih (naming.next b).2
    refine ⟨names ++ [(naming.next b).1], ?_⟩
    rw [all_cons, hnames, (naming.next_spec b).2, List.append_assoc]
    rfl

/-- Bases that are free and distinct are the names. -/
theorem all_of_nodup {naming : Naming} {bases : List String} (hb : bases.Nodup)
    (hfree : ∀ b ∈ bases, b ∉ naming.taken) :
    (naming.all bases).taken = bases.reverse ++ naming.taken := by
  induction bases generalizing naming with
  | nil => rfl
  | cons b bases ih =>
    obtain ⟨hnot, hrest⟩ := List.nodup_cons.mp hb
    have htaken := next_of_not_mem (hfree b List.mem_cons_self)
    rw [all_cons, ih hrest, htaken, List.reverse_cons, List.append_assoc]
    · rfl
    · -- `b` is taken by now, but no later base is `b`
      intro x hx hmem
      rw [htaken] at hmem
      rcases List.mem_cons.mp hmem with rfl | hmem
      · exact hnot hx
      · exact hfree x (List.mem_cons_of_mem _ hx) hmem

end Naming

/-! ## Names for a row of headers -/

/-- What the headers of a row are to be called if the names are free. -/
def bases (raws : List String) : List String := raws.zipIdx.map fun (raw, place) => base raw place

theorem normalize_eq_all (raws : List String) :
    normalize raws = (({} : Naming).all (bases raws)).taken.reverse := by
  unfold normalize Naming.all bases
  rw [List.foldl_map]

/-- **Names of columns are distinct.** -/
@[simp] theorem nodup_normalize (raws : List String) : (normalize raws).Nodup := by
  rw [normalize_eq_all, List.nodup_reverse]
  exact Naming.nodup_all List.nodup_nil _

/-- There is one name for each header. -/
@[simp] theorem length_normalize (raws : List String) : (normalize raws).length = raws.length := by
  rw [normalize_eq_all, List.length_reverse, Naming.length_all]
  simp [bases]

/-- No name is blank. -/
theorem normalize_ne_empty {raws : List String} {name : String} (h : name ∈ normalize raws) :
    name ≠ "" := by
  rw [normalize_eq_all, List.mem_reverse] at h
  refine Naming.all_ne_empty (by simp) (fun b hb => ?_) name h
  obtain ⟨⟨raw, place⟩, _, rfl⟩ := List.mem_map.mp hb
  exact base_ne_empty raw place

/-- Headers whose names are all free are called what they are to be called. -/
theorem normalize_of_nodup {raws : List String} (h : (bases raws).Nodup) :
    normalize raws = bases raws := by
  rw [normalize_eq_all, Naming.all_of_nodup h (by simp), List.append_nil, List.reverse_reverse]

/-- A blank first header gets its name before any other header could take it. -/
theorem normalize_blank_cons (names : List String) :
    ∃ others, normalize ("" :: names) = unnamed 0 :: others := by
  have hbases : bases ("" :: names)
      = unnamed 0 :: (names.zipIdx 1).map fun (raw, place) => base raw place := by
    unfold bases
    rw [List.zipIdx_cons, List.map_cons]
    rfl
  have hfirst : (({} : Naming).next (unnamed 0)).2.taken = [unnamed 0] :=
    Naming.next_of_not_mem List.not_mem_nil
  rw [normalize_eq_all, hbases, Naming.all_cons]
  obtain ⟨others, hothers⟩ := Naming.exists_taken_all (({} : Naming).next (unnamed 0)).2
    ((names.zipIdx 1).map fun (raw, place) => base raw place)
  rw [hothers, hfirst, List.reverse_append]
  exact ⟨_, rfl⟩

/-- Without a blank one among them, headers are to be called what they say. -/
theorem map_base_zipIdx {names : List String} (hblank : "" ∉ names) (k : Nat) :
    (names.zipIdx k).map (fun (raw, place) => base raw place) = names := by
  have hcongr : (names.zipIdx k).map (fun (raw, place) => base raw place)
      = (names.zipIdx k).map Prod.fst := by
    refine List.map_congr_left fun ⟨raw, place⟩ hmem => ?_
    exact base_of_ne_empty (fun e => hblank (e ▸ List.fst_mem_of_mem_zipIdx hmem)) place
  rw [hcongr, List.zipIdx_map_fst]

/-- Names that are distinct and not blank stay as they are. -/
theorem normalize_eq_self {names : List String} (hn : names.Nodup) (hblank : "" ∉ names) :
    normalize names = names := by
  have hbases : bases names = names := map_base_zipIdx hblank 0
  rw [normalize_of_nodup (hbases.symm ▸ hn), hbases]

/-- Behind a blank header, distinct names that are not its own stay as they are. -/
theorem normalize_indexed {names : List String} (hn : names.Nodup) (hblank : "" ∉ names)
    (hfree : unnamed 0 ∉ names) : normalize ("" :: names) = unnamed 0 :: names := by
  have hbases : bases ("" :: names) = unnamed 0 :: names := by
    unfold bases
    rw [List.zipIdx_cons, List.map_cons, map_base_zipIdx hblank]
    rfl
  rw [normalize_of_nodup (by rw [hbases]; exact List.nodup_cons.mpr ⟨hfree, hn⟩), hbases]

/-! ## Places of names -/

variable {α β : Type} {names : List String}

/-- Names are distinct, so looking for a name is looking at the name of a place. -/
theorem idxOf?_eq_some_iff (hn : names.Nodup) {i : Nat} (hi : i < names.length) {name : String} :
    names.idxOf? name = some i ↔ names[i] = name := by
  rw [List.idxOf?_eq_some_iff]
  refine ⟨fun ⟨_, hname, _⟩ => hname, fun hname => ⟨hi, hname, fun j hj e => ?_⟩⟩
  have hji : j = i := (List.Nodup.getElem_inj_iff hn).mp (e.trans hname.symm)
  omega

/-- Looking a name up once and comparing places then is comparing names. -/
theorem mapIdx_eq_zipWith (hn : names.Nodup) (name : String) (f : Bool → α → β) {xs : List α}
    (hlen : xs.length = names.length) :
    xs.mapIdx (fun i x => f (names.idxOf? name == some i) x)
      = names.zipWith (fun other x => f (other == name) x) xs := by
  refine List.ext_getElem (by simp [hlen]) fun i hi hi' => ?_
  have hi'' : i < names.length := by rwa [List.length_mapIdx, hlen] at hi
  have hplace : (names.idxOf? name == some i) = (names[i] == name) := by
    rw [Bool.eq_iff_iff, beq_iff_eq, beq_iff_eq, idxOf?_eq_some_iff hn hi'']
  rw [List.getElem_mapIdx, List.getElem_zipWith, hplace]

/-- If a name is not there, nothing stands under it. -/
theorem zipWith_of_not_mem {name : String} (h : name ∉ names) (f : Bool → α → β) {xs : List α}
    (hlen : xs.length = names.length) :
    names.zipWith (fun other x => f (other == name) x) xs = xs.map (f false) := by
  refine List.ext_getElem (by simp [hlen]) fun i hi hi' => ?_
  have hi'' : i < names.length := by rwa [List.length_map, hlen] at hi'
  have hne : names[i] ≠ name := fun e => h (e ▸ List.getElem_mem hi'')
  rw [List.getElem_zipWith, List.getElem_map, beq_false_of_ne hne]

end TidyTable.Header
