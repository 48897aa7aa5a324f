import Mathlib.Data.List.NodupEquivFin
import Mathlib.Data.Nat.Find
import TidyTable.Proofs.Naming
import TidyTable.Table.Basic

/-!
# Names by the plain rule

The plain rule for naming columns has no memory but the names themselves: from left to right, a base
that no earlier name equals is the name, and any other base gets the least number that makes a free
name. `plainNames` is that rule. `normalize` does not follow it to the letter. It counts for each
base how far the base is numbered, and looks for a free number only behind that count.

Both give the same names, because the count never skips a free number. The invariant is `Counted`:
whatever number a count has passed makes a name that is taken. A base can be counted past numbers
that it was never given, where a header read like a numbered name, but those are taken all the same.

A header is named without a look at the headers behind it. So a header that stands alone with its
text need not keep it: an earlier header may have been given this text, as a name that was made for
it. That is the only way in which it gets lost, and then a column that is looked up under the text
is the wrong one.
-/

namespace TidyTable.Header

/-! ## The plain rule -/

theorem exists_numbered_not_mem (taken : List String) (base : String) :
    ∃ k, 1 ≤ k ∧ numbered base k ∉ taken := by
  obtain ⟨j, hj, -⟩ := Naming.firstFree_spec taken base taken.length 1
  refine ⟨Naming.firstFree taken base 1 taken.length, by omega, ?_⟩
  exact Naming.firstFree_not_mem (Nat.le_refl _) base 1

/-- The least number, from one on, that makes a free name. -/
def leastFree (taken : List String) (base : String) : Nat :=
  Nat.find (exists_numbered_not_mem taken base)

/-- The name for a base behind the names that are given. -/
def plainName (earlier : List String) (base : String) : String :=
  if base ∈ earlier then numbered base (leastFree earlier base) else base

/-- The names for bases, one after another. -/
def plainNames (earlier : List String) : List String → List String
  | [] => []
  | base :: bases =>
    plainName earlier base :: plainNames (earlier ++ [plainName earlier base]) bases

theorem leastFree_eq_iff {taken : List String} {base : String} {k : Nat} :
    leastFree taken base = k ↔ (1 ≤ k ∧ numbered base k ∉ taken) ∧
      ∀ j, 1 ≤ j → j < k → numbered base j ∈ taken := by
  unfold leastFree
  rw [Nat.find_eq_iff]
  refine and_congr_right fun _ => ⟨fun h j hj hlt => ?_, fun h j hlt hj => hj.2 (h j hj.1 hlt)⟩
  by_contra hfree
  exact h j hlt ⟨hj, hfree⟩

/-- The rule asks which names are there, not in which order they came. -/
theorem plainName_congr {earlier earlier' : List String} (h : ∀ x, x ∈ earlier ↔ x ∈ earlier')
    (base : String) : plainName earlier base = plainName earlier' base := by
  have hleast : leastFree earlier base = leastFree earlier' base := by
    obtain ⟨⟨hk, hfree⟩, hbelow⟩ := leastFree_eq_iff.mp (rfl : leastFree earlier' base = _)
    rw [leastFree_eq_iff]
    refine ⟨⟨hk, fun hmem => hfree ((h _).mp hmem)⟩, ?_⟩
    intro j hj hlt
    exact (h _).mpr (hbelow j hj hlt)
  unfold plainName
  rw [hleast]
  by_cases hb : base ∈ earlier
  · rw [if_pos hb, if_pos ((h base).mp hb)]
  · rw [if_neg hb, if_neg fun hb' => hb ((h base).mpr hb')]

theorem numbered_ne_self (base : String) (k : Nat) : numbered base k ≠ base := by
  intro h
  have hlen := congrArg (fun s => s.toList.length) h
  simp [numbered] at hlen

/-- A base is its own name exactly if it is free. -/
theorem plainName_eq_self_iff {earlier : List String} {base : String} :
    plainName earlier base = base ↔ base ∉ earlier := by
  unfold plainName
  split
  · rename_i hmem
    exact ⟨fun h => absurd h (numbered_ne_self _ _), fun h => absurd hmem h⟩
  · rename_i hfree
    exact ⟨fun _ => hfree, fun _ => rfl⟩

/-- A name that is not the base is the base with a number. -/
theorem exists_numbered_of_plainName_ne {earlier : List String} {base : String}
    (h : plainName earlier base ≠ base) : ∃ k, 1 ≤ k ∧ plainName earlier base = numbered base k := by
  have hmem : base ∈ earlier := by
    by_contra hfree
    exact h (plainName_eq_self_iff.mpr hfree)
  obtain ⟨⟨hk, -⟩, -⟩ := leastFree_eq_iff.mp (rfl : leastFree earlier base = _)
  refine ⟨leastFree earlier base, hk, ?_⟩
  unfold plainName
  rw [if_pos hmem]

/-! ## Counting on gives the same numbers -/

namespace Naming

variable {naming : Naming}

/-- With tries enough, the search from `k` on ends at the first number that makes a free name. -/
theorem firstFree_eq_iff {taken : List String} {base : String} {tries k j : Nat}
    (h : taken.length ≤ tries) : firstFree taken base k tries = j ↔
      (k ≤ j ∧ numbered base j ∉ taken) ∧ ∀ i, k ≤ i → i < j → numbered base i ∈ taken := by
  have hfree := firstFree_not_mem h base k
  obtain ⟨found, hfound, -, htaken, -⟩ := firstFree_spec taken base tries k
  have hbelow : ∀ i, k ≤ i → i < firstFree taken base k tries → numbered base i ∈ taken := by
    intro i hki hi
    have hi' := htaken (i - k) (by omega)
    rwa [show k + (i - k) = i by omega] at hi'
  constructor
  · rintro rfl
    exact ⟨⟨by omega, hfree⟩, hbelow⟩
  · rintro ⟨⟨hkj, hj⟩, hall⟩
    -- of two different numbers the lesser one would be both taken and free
    rcases Nat.lt_trichotomy (firstFree taken base k tries) j with hlt | heq | hgt
    · exact absurd (hall _ (by omega) hlt) hfree
    · exact heq
    · exact absurd (hbelow j hkj hgt) hj

/-- **The search ends.** It comes to a free name, and more tries would not change which. -/
theorem exists_firstFree (taken : List String) (base : String) (k : Nat) :
    ∃ j, numbered base j ∉ taken ∧ ∀ more, firstFree taken base k (taken.length + more) = j := by
  have hleast := (firstFree_eq_iff (Nat.le_refl taken.length)).mp
    (rfl : firstFree taken base k taken.length = _)
  exact ⟨_, hleast.1.2, fun more => (firstFree_eq_iff (by omega)).mpr hleast⟩

/-- Every number that a count has passed makes a name that is taken. -/
def Counted (naming : Naming) : Prop :=
  ∀ base k, 1 ≤ k → k ≤ naming.count base → numbered base k ∈ naming.taken

theorem counted_empty : Counted {} := by
  intro base k hk hle
  have hzero : ({} : Naming).count base = 0 := rfl
  omega

/-- What is taken behind the count of a base is all that is taken of it. -/
theorem firstFree_eq_leastFree (h : naming.Counted) (base : String) :
    firstFree naming.taken base (naming.count base + 1) naming.taken.length
      = leastFree naming.taken base := by
  obtain ⟨⟨hk, hfree⟩, hbelow⟩ := leastFree_eq_iff.mp (rfl : leastFree naming.taken base = _)
  rw [firstFree_eq_iff (Nat.le_refl _)]
  refine ⟨⟨?_, hfree⟩, fun i hi hlt => hbelow i (by omega) hlt⟩
  -- the least free number is not among the counted ones, since those are taken
  by_contra hle
  exact hfree (h base _ hk (by omega))

theorem next_eq_plainName (h : naming.Counted) (base : String) :
    (naming.next base).1 = plainName naming.taken base := by
  unfold next plainName
  split
  · rw [firstFree_eq_leastFree h base]
  · rfl

theorem count_next (h : naming.Counted) (base other : String) :
    (naming.next base).2.count other = if base ∈ naming.taken ∧ other = base
      then leastFree naming.taken base else naming.count other := by
  unfold next
  by_cases hmem : base ∈ naming.taken
  · rw [if_pos hmem, firstFree_eq_leastFree h base]
    by_cases hother : other = base
    · rw [if_pos ⟨hmem, hother⟩, hother]
      simp [count]
    · rw [if_neg fun hboth => hother hboth.2]
      unfold count
      rw [List.lookup_cons, beq_false_of_ne hother]
  · rw [if_neg hmem, if_neg fun hboth => hmem hboth.1]
    rfl

/-- One more name is counted as far as it goes. -/
theorem Counted.next (h : naming.Counted) (base : String) : (naming.next base).2.Counted := by
  intro other k hk hle
  rw [count_next h] at hle
  rw [(naming.next_spec base).2, next_eq_plainName h]
  split at hle
  · rename_i hbase
    obtain ⟨hmem, rfl⟩ := hbase
    -- the least free number is taken from now on, and those below it were taken before
    obtain ⟨-, hbelow⟩ := leastFree_eq_iff.mp (rfl : leastFree naming.taken other = _)
    rcases Nat.lt_or_eq_of_le hle with hlt | heq
    · exact List.mem_cons_of_mem _ (hbelow k hk hlt)
    · rw [heq, plainName, if_pos hmem]
      exact List.mem_cons_self
  · exact List.mem_cons_of_mem _ (h other k hk hle)

/-- One after another, the bases get the names of the plain rule. -/
theorem all_eq_plainNames (h : naming.Counted) (bases : List String) :
    (naming.all bases).taken.reverse
      = naming.taken.reverse ++ plainNames naming.taken.reverse bases := by
  induction bases generalizing naming with
  | nil => exact (List.append_nil _).symm
  | cons base bases ih =>
    have hname : (naming.next base).1 = plainName naming.taken.reverse base := by
      rw [next_eq_plainName h]
      exact plainName_congr (fun x => List.mem_reverse.symm) base
    have htaken : (naming.next base).2.taken.reverse
        = naming.taken.reverse ++ [plainName naming.taken.reverse base] := by
      rw [(naming.next_spec base).2, List.reverse_cons, hname]
    rw [all_cons, ih (h.next base), htaken, plainNames, List.append_assoc, List.singleton_append]

end Naming

/-! ## Names for a row of headers -/

theorem normalize_eq_plainNames (raws : List String) :
    normalize raws = plainNames [] (bases raws) := by
  rw [normalize_eq_all, Naming.all_eq_plainNames Naming.counted_empty]
  rfl

/-- Nothing is renamed exactly if no header is blank and none is there twice. -/
theorem normalize_eq_self_iff {raws : List String} :
    normalize raws = raws ↔ "" ∉ raws ∧ raws.Nodup := by
  constructor
  · intro h
    refine ⟨fun hblank => ?_, h ▸ nodup_normalize raws⟩
    rw [← h] at hblank
    exact normalize_ne_empty hblank rfl
  · rintro ⟨hblank, hnodup⟩
    exact normalize_eq_self hnodup hblank

/-- **Headers are named by the plain rule.** Each search for a number ends, there is one name for
each header, no name is blank or there twice, and headers that need no other names keep theirs. -/
theorem normalize_by_plain_rule (raws : List String) :
    normalize raws = plainNames [] (bases raws) ∧
      (∀ taken base k, ∃ j, numbered base j ∉ taken ∧
        ∀ more, Naming.firstFree taken base k (taken.length + more) = j) ∧
      (normalize raws).length = raws.length ∧
      "" ∉ normalize raws ∧ (normalize raws).Nodup ∧
      (normalize raws = raws ↔ "" ∉ raws ∧ raws.Nodup) := by
  refine ⟨normalize_eq_plainNames raws, Naming.exists_firstFree, length_normalize raws, ?_,
    nodup_normalize raws, normalize_eq_self_iff⟩
  intro hblank
  exact normalize_ne_empty hblank rfl

/-- The second `a` finds the number one taken, and the fourth begins behind the number two. -/
example : normalize ["a", "a.1", "a", "", "a", "a.1"]
    = ["a", "a.1", "a.2", "Unnamed: 3", "a.3", "a.1.1"] := by
  decide

/-! ## Which texts are kept -/

theorem getElem?_plainNames (earlier bases : List String) (i : Nat) :
    (plainNames earlier bases)[i]?
      = bases[i]?.map (plainName (earlier ++ (plainNames earlier bases).take i)) := by
  induction bases generalizing earlier i with
  | nil => rfl
  | cons base bases ih =>
    cases i with
    | zero => simp [plainNames]
    | succ i =>
      rw [plainNames, List.getElem?_cons_succ, List.getElem?_cons_succ, ih, List.take_succ_cons,
        List.append_assoc, List.singleton_append]

/-- The name in a place is the plain name behind the names before it. -/
theorem getElem?_normalize {raws : List String} {i : Nat} {raw : String} (h : raws[i]? = some raw) :
    (normalize raws)[i]? = some (plainName ((normalize raws).take i) (base raw i)) := by
  have hbase : (bases raws)[i]? = some (base raw i) := by
    unfold bases
    rw [List.getElem?_map, List.getElem?_zipIdx, h]
    simp
  rw [normalize_eq_plainNames, getElem?_plainNames, hbase]
  rfl

/-- A name that was made for a header: after its place, or by a number behind its base. -/
def Made (raw : String) (place : Nat) (name : String) : Prop :=
  (raw = "" ∧ name = unnamed place) ∨ ∃ k, 1 ≤ k ∧ name = numbered (base raw place) k

/-- A header that is not called what it says has a name that was made for it. -/
theorem made_of_ne {raws : List String} {i : Nat} {raw name : String} (h : raws[i]? = some raw)
    (hname : (normalize raws)[i]? = some name) (hne : name ≠ raw) : Made raw i name := by
  rw [getElem?_normalize h] at hname
  obtain rfl := Option.some.inj hname
  by_cases hself : plainName ((normalize raws).take i) (base raw i) = base raw i
  · -- the name is the base and not the text, so there is no text
    have hblank : raw = "" := by
      by_contra hraw
      exact hne (hself.trans (base_of_ne_empty hraw i))
    refine Or.inl ⟨hblank, ?_⟩
    rw [hself, hblank]
    rfl
  · exact Or.inr (exists_numbered_of_plainName_ne hself)

/-- A text is kept if none of the names before it is this text. -/
theorem getElem?_normalize_eq_text_iff {raws : List String} {i : Nat} {text : String}
    (hi : raws[i]? = some text) (hne : text ≠ "") :
    (normalize raws)[i]? = some text ↔ ∀ j < i, (normalize raws)[j]? ≠ some text := by
  rw [getElem?_normalize hi, base_of_ne_empty hne, Option.some_inj, plainName_eq_self_iff]
  constructor
  · intro hnot j hj hname
    refine hnot (List.mem_of_getElem? (i := j) ?_)
    rw [List.getElem?_take_of_lt hj]
    exact hname
  · intro hall hmem
    obtain ⟨j, hj⟩ := List.mem_iff_getElem?.mp hmem
    have hlt : j < i := by
      have hlen := (List.getElem?_eq_some_iff.mp hj).1
      rw [List.length_take] at hlen
      omega
    rw [List.getElem?_take_of_lt hlt] at hj
    exact hall j hlt hj

theorem two_le_count {raws : List String} {i j : Nat} {text : String} (hlt : i < j)
    (hi : raws[i]? = some text) (hj : raws[j]? = some text) : 2 ≤ raws.count text := by
  obtain ⟨hi_lt, hi⟩ := List.getElem?_eq_some_iff.mp hi
  obtain ⟨hj_lt, hj⟩ := List.getElem?_eq_some_iff.mp hj
  rw [← List.duplicate_iff_two_le_count, List.duplicate_iff_exists_distinct_get]
  exact ⟨⟨i, hi_lt⟩, ⟨j, hj_lt⟩, hlt, hi.symm, hj.symm⟩

/-- **A text that stands alone is lost to a name that was made, and to nothing else.** It stays in
its place unless a name that was made for an earlier header is the same. There is a column of this
name in any case, and the one that is found under it is the right one exactly if the text stayed. -/
theorem normalize_keeps_lone_iff {raws : List String} {i : Nat} {text : String}
    (hi : raws[i]? = some text) (hne : text ≠ "") (hlone : raws.count text = 1) :
    ((normalize raws)[i]? = some text ↔ ¬ ∃ j < i, ∃ raw, raws[j]? = some raw ∧
        (normalize raws)[j]? = some text ∧ Made raw j text) ∧
      ∃ j ≤ i, (Table.ofHeaders raws).columnIndex? text = some j ∧
        (j = i ↔ (normalize raws)[i]? = some text) := by
  have hkeeps := getElem?_normalize_eq_text_iff hi hne
  have hfound {j : Nat} (hj : (normalize raws)[j]? = some text) :
      (Table.ofHeaders raws).columnIndex? text = some j := by
    obtain ⟨hlt, hname⟩ := List.getElem?_eq_some_iff.mp hj
    exact (idxOf?_eq_some_iff (nodup_normalize raws) hlt).mpr hname
  refine ⟨?_, ?_⟩
  · rw [hkeeps]
    constructor
    · rintro hall ⟨j, hj, raw, -, hname, -⟩
      exact hall j hj hname
    · intro hnone j hj hname
      have hlt : j < raws.length := by
        have hlt := (List.getElem?_eq_some_iff.mp hname).1
        rwa [length_normalize] at hlt
      -- the text stands in another place, so this header says something else
      have hother : text ≠ raws[j] := by
        intro heq
        have hj_text : raws[j]? = some text := by rw [List.getElem?_eq_getElem hlt, heq]
        have htwice := two_le_count hj hj_text hi
        omega
      exact hnone ⟨j, hj, raws[j], List.getElem?_eq_getElem hlt, hname,
        made_of_ne (List.getElem?_eq_getElem hlt) hname hother⟩
  · by_cases hkept : (normalize raws)[i]? = some text
    · exact ⟨i, Nat.le_refl i, hfound hkept, fun _ => hkept, fun _ => rfl⟩
    · have hearlier : ∃ j < i, (normalize raws)[j]? = some text := by
        by_contra hnone
        exact hkept (hkeeps.mpr fun j hj hname => hnone ⟨j, hj, hname⟩)
      obtain ⟨j, hj, hname⟩ := hearlier
      refine ⟨j, by omega, hfound hname, fun e => absurd e (by omega), fun hkept => ?_⟩
      exact absurd hname (hkeeps.mp hkept j hj)

/-- A text that reads like the name of the third header, but stands before it. -/
theorem normalize_keeps_lone_iff_before_repeats :
    let raws := ["a", "a.1", "a", "a"]
    raws[1]? = some "a.1" ∧ "a.1" ≠ "" ∧ raws.count "a.1" = 1 ∧
      ((normalize raws)[1]? = some "a.1" ↔ ¬ ∃ j < 1, ∃ raw, raws[j]? = some raw ∧
          (normalize raws)[j]? = some "a.1" ∧ Made raw j "a.1") ∧
        ∃ j ≤ 1, (Table.ofHeaders raws).columnIndex? "a.1" = some j ∧
          (j = 1 ↔ (normalize raws)[1]? = some "a.1") := by
  intro raws
  have hi : raws[1]? = some "a.1" := rfl
  have hne : "a.1" ≠ "" := by decide
  have hlone : raws.count "a.1" = 1 := by decide
  exact ⟨hi, hne, hlone, normalize_keeps_lone_iff hi hne hlone⟩

/-- **A name that was made comes first.** The second `a` is called by the text of the third header,
which then has to be called otherwise, and this text finds the column of the second. -/
theorem normalize_keeps_lone_iff_behind_repeats :
    let raws := ["a", "a", "a.1"]
    raws[2]? = some "a.1" ∧ "a.1" ≠ "" ∧ raws.count "a.1" = 1 ∧
      normalize raws = ["a", "a.1", "a.1.1"] ∧ (normalize raws)[2]? ≠ some "a.1" ∧
      (Table.ofHeaders raws).columnIndex? "a.1" = some 1 := by
  decide

end TidyTable.Header
