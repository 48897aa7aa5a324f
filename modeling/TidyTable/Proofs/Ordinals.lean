import Mathlib.Data.List.Basic
import TidyTable.Table.Basic

/-!
# The number of a row

A row is written behind its number. Read back, the number is a plain text, in the nested column as
in any other: it is not blank, it begins neither as markup nor as a record does. This holds of every
text that reads as a number, whether it was written so or not. And the number counts as what it is,
which is how an index is recognized.

`Table.withIndex` is a table behind any column of values under the name of a blank first header. It
does not matter how the values write the numbers: if each counts as the number of its row, this
column is the index, and dropping the index gives the table.
-/

namespace TidyTable

/-! ## What begins as a record -/

namespace Json

/-- A value that is an object begins with a brace. -/
theorem skipSpace_of_readValue? {fuel depth : Nat} {cs rest : List Char} {fields : Record}
    (h : readValue? fuel depth cs = some (.object fields, rest)) :
    ∃ behind, skipSpace cs = '\x7b' :: behind := by
  cases fuel with
  | zero => rw [readValue?] at h; exact absurd h nofun
  | succ fuel =>
    rw [readValue?] at h
    split at h
    · exact absurd h nofun
    · exact absurd (Option.some.inj h) nofun
    · exact absurd (Option.some.inj h) nofun
    · exact absurd (Option.some.inj h) nofun
    · -- a string
      obtain ⟨_, _, e⟩ := Option.map_eq_some_iff.mp h
      exact absurd e nofun
    · -- an array
      cases depth with
      | zero => exact absurd h nofun
      | succ depth =>
        dsimp only at h
        split at h
        · exact absurd (Option.some.inj h) nofun
        · obtain ⟨_, _, e⟩ := Option.map_eq_some_iff.mp h
          exact absurd e nofun
    · rename_i behind hbrace
      exact ⟨behind, hbrace⟩
    · -- a number
      obtain ⟨_, _, e⟩ := Option.map_eq_some_iff.mp h
      exact absurd e nofun

end Json

namespace Cell

/-- A text that holds a record begins with a brace, behind blanks and JSON space. -/
theorem skipSpace_of_readRecord? {s : String} {fields : Record}
    (h : readRecord? s = some fields) :
    ∃ behind, Json.skipSpace (Text.trim s.toList) = '\x7b' :: behind := by
  unfold readRecord? Json.parse? at h
  cases hv : Json.readValue? (2 * (Text.trim s.toList).length + 2) Json.maxDepth
      (Text.trim s.toList) with
  | none => rw [hv] at h; exact absurd h nofun
  | some read =>
    obtain ⟨j, rest⟩ := read
    rw [hv] at h
    dsimp only at h
    split at h
    · rename_i hparse
      split at hparse
      · obtain rfl := Option.some.inj hparse
        exact Json.skipSpace_of_readValue? hv
      · exact absurd hparse nofun
    · exact absurd h nofun

end Cell

/-! ## Digits -/

namespace Text

theorem trim_eq_self {cs : List Char} (h : ∀ c ∈ cs, isBlank c = false) : trim cs = cs := by
  have hdrop {l : List Char} (hl : ∀ c ∈ l, isBlank c = false) : l.dropWhile isBlank = l := by
    cases l with
    | nil => rfl
    | cons c l => rw [List.dropWhile_cons, hl c List.mem_cons_self, if_neg Bool.false_ne_true]
  unfold trim
  rw [hdrop h, hdrop fun c hc => h c (List.mem_reverse.mp hc), List.reverse_reverse]

theorem toNat_of_isDigit {c : Char} (h : c.isDigit = true) : 48 ≤ c.toNat ∧ c.toNat ≤ 57 := by
  simp only [Char.isDigit, Bool.and_eq_true, decide_eq_true_eq] at h
  exact ⟨UInt32.le_iff_toNat_le.mp h.1, UInt32.le_iff_toNat_le.mp h.2⟩

theorem isBlank_of_isDigit {c : Char} (h : c.isDigit = true) : isBlank c = false := by
  obtain ⟨h1, h2⟩ := toNat_of_isDigit h
  simp only [isBlank, Bool.or_eq_false_iff, Bool.and_eq_false_iff, decide_eq_false_iff_not,
    beq_eq_false_iff_ne]
  omega

/-- No character of another kind is a digit. -/
theorem ne_of_isDigit {c x : Char} (h : c.isDigit = true) (hx : x.isDigit = false) : c ≠ x := by
  intro e
  rw [e, hx] at h
  exact Bool.noConfusion h

end Text

namespace Decimal

/-- A number begins with a digit, and all of its text is digits. -/
theorem digits_spec (n : Nat) :
    ∃ c cs, digits n = c :: cs ∧ c.isDigit = true ∧ ∀ x ∈ digits n, x.isDigit = true := by
  have hall : ∀ x ∈ digits n, x.isDigit = true := fun x hx =>
    Nat.isDigit_of_mem_toDigits (by decide) (by decide) hx
  obtain ⟨c, cs, hcs⟩ := List.exists_cons_of_ne_nil (Nat.toDigits_ne_nil (n := n) (b := 10))
  exact ⟨c, cs, hcs, hall c (by rw [digits, hcs]; exact List.mem_cons_self), hall⟩

@[simp]
theorem toList_naturalText (n : Nat) : (naturalText n).toList = digits n := String.toList_ofList

@[simp] theorem trim_digits (n : Nat) : Text.trim (digits n) = digits n := by
  obtain ⟨_, _, _, _, hall⟩ := digits_spec n
  exact Text.trim_eq_self fun c hc => Text.isBlank_of_isDigit (hall c hc)

@[simp] theorem readNatural?_digits (n : Nat) : readNatural? (digits n) = some n := by
  obtain ⟨c, cs, hcs, hc, _⟩ := digits_spec n
  have hplus : c ≠ '+' := Text.ne_of_isDigit hc (by decide)
  rw [← readDigits?_digits n, hcs]
  unfold readNatural?
  split
  · rename_i h
    exact absurd (List.cons.inj h).1 hplus
  · rfl

end Decimal

/-! ## The number of a row -/

namespace Text

/-- What is no blank at the front stays there. -/
theorem trim_cons {c : Char} (h : isBlank c = false) (cs : List Char) :
    ∃ rest, trim (c :: cs) = c :: rest := by
  have hdrop : (c :: cs).dropWhile isBlank = c :: cs := by
    rw [List.dropWhile_cons, h, if_neg Bool.false_ne_true]
  have hback : (cs.reverse ++ [c]).dropWhile isBlank
      = (cs.reverse.dropWhile isBlank) ++ [c] := by
    rw [List.dropWhile_append]
    split
    · rename_i hnil
      rw [List.dropWhile_cons, h, if_neg Bool.false_ne_true, List.isEmpty_iff.mp hnil]
      rfl
    · rfl
  refine ⟨(cs.reverse.dropWhile isBlank).reverse, ?_⟩
  rw [trim, hdrop, List.reverse_cons, hback, List.reverse_append]
  rfl

end Text

namespace Decimal

/-- What reads as a number begins with a digit or with a plus sign. -/
theorem exists_cons_of_readNatural? {cs : List Char} {n : Nat} (h : readNatural? cs = some n) :
    ∃ c rest, cs = c :: rest ∧ (c = '+' ∨ c.isDigit = true) := by
  unfold readNatural? at h
  split at h
  · exact ⟨'+', _, rfl, Or.inl rfl⟩
  · unfold readDigits? at h
    obtain ⟨hdigits, -⟩ := Option.ite_none_right_eq_some.mp h
    cases cs with
    | nil => exact absurd hdigits (by decide)
    | cons c rest =>
      rw [List.all_cons, Bool.and_eq_true, Bool.and_eq_true] at hdigits
      exact ⟨c, rest, rfl, Or.inr hdigits.2.1⟩

end Decimal

namespace Cell

/-- A text that reads as a number is a plain text, in whatever column it stands. -/
theorem ofText_of_readNatural? (nested : Bool) {s : String} {n : Nat}
    (h : Decimal.readNatural? (Text.trim s.toList) = some n) : ofText nested s = text s := by
  obtain ⟨c, rest, hcons, hc⟩ := Decimal.exists_cons_of_readNatural? h
  have hother {x : Char} (hplus : '+' ≠ x) (hdigit : x.isDigit = false) : c ≠ x := by
    rcases hc with rfl | hc
    · exact hplus
    · exact Text.ne_of_isDigit hc hdigit
  have hne : s.isEmpty = false := by
    rw [String.isEmpty_eq_false_iff]
    rintro rfl
    exact absurd hcons nofun
  have hrecord : readRecord? s = none := by
    cases hread : readRecord? s with
    | none => rfl
    | some fields =>
      obtain ⟨behind, hbrace⟩ := skipSpace_of_readRecord? hread
      -- the first character is not skipped, so it would have to be the brace
      have hspace : Json.isSpace c = false := by
        simp [Json.isSpace, hother (x := ' ') (by decide) (by decide),
          hother (x := '\n') (by decide) (by decide), hother (x := '\t') (by decide) (by decide),
          hother (x := '\r') (by decide) (by decide)]
      rw [hcons, Json.skipSpace, List.dropWhile_cons, hspace, if_neg Bool.false_ne_true] at hbrace
      exact absurd (List.cons.inj hbrace).1 (hother (by decide) (by decide))
  have hmarkup : looksLikeMarkup s = false := by
    cases hs : s.toList with
    | nil => simp [looksLikeMarkup, hs]
    | cons first behind =>
      -- an angle bracket in front would not be trimmed away
      have hfirst : first ≠ '<' := by
        rintro rfl
        obtain ⟨kept, hkept⟩ := Text.trim_cons (c := '<') (by decide) behind
        rw [hs, hkept] at hcons
        exact hother (by decide) (by decide) (List.cons.inj hcons).1.symm
      simp [looksLikeMarkup, hs, hfirst]
  unfold ofText
  rw [hne, hrecord, hmarkup]
  cases nested <;> rfl

/-- So is a number that was written. -/
theorem ofText_naturalText (nested : Bool) (n : Nat) :
    ofText nested (Decimal.naturalText n) = text (Decimal.naturalText n) := by
  refine ofText_of_readNatural? nested (n := n) ?_
  simp

end Cell

namespace Scalar

/-- A number that is read counts as this number. -/
theorem isOrdinal_naturalText (n : Nat) : (text (Decimal.naturalText n)).isOrdinal n = true := by
  show (Decimal.readNatural? (Text.trim (Decimal.naturalText n).toList) == some n) = true
  simp

end Scalar

/-! ## The row index -/

namespace Cell

/-- A cell counts as a number if it is plain and its value does. -/
def Counts (n : Nat) (cell : Cell) : Prop :=
  ∃ value, cell.scalar? = some value ∧ value.isOrdinal n = true

end Cell

namespace Table

/-- What an index is: a first column under its name whose cells count the rows. -/
theorem hasIndex_iff {t : Table} : t.hasIndex = true ↔
    t.columns.head? = some (Header.unnamed 0) ∧ ∀ (n : Nat) (row : Row), t.rows[n]? = some row →
      ∃ cell, row.head? = some cell ∧ cell.Counts n := by
  unfold hasIndex
  rw [Bool.and_eq_true, beq_iff_eq, List.all_eq_true]
  refine and_congr_right fun _ => ⟨fun h n row hrow => ?_, fun h => ?_⟩
  · have hcounts := h (row, n) (List.mem_zipIdx_iff_getElem?.mpr hrow)
    dsimp only at hcounts
    split at hcounts
    · rename_i value hvalue
      obtain ⟨cell, hcell, hscalar⟩ := Option.bind_eq_some_iff.mp hvalue
      exact ⟨cell, hcell, value, hscalar, hcounts⟩
    · exact absurd hcounts Bool.false_ne_true
  · rintro ⟨row, n⟩ hmem
    obtain ⟨cell, hcell, value, hscalar, hcounts⟩ :=
      h n row (List.mem_zipIdx_iff_getElem?.mp hmem)
    dsimp only
    rw [hcell, Option.bind_some, hscalar]
    exact hcounts

theorem columns_of_hasIndex {t : Table} (h : t.hasIndex = true) :
    t.columns = Header.unnamed 0 :: (t.eraseColumn 0).columns := by
  obtain ⟨others, hnames⟩ := List.head?_eq_some_iff.mp (hasIndex_iff.mp h).1
  show t.columns = Header.unnamed 0 :: t.columns.eraseIdx 0
  rw [hnames]
  rfl

variable {index : Nat → Scalar} {t : Table}

/-- A table behind a column of values, under the name that a blank header has there. -/
def withIndex (index : Nat → Scalar) (t : Table) : Table :=
  { columns := Header.unnamed 0 :: t.columns
    rows := t.rows.zipIdx.map fun (row, n) => .plain (index n) :: row }

theorem hasIndex_withIndex (h : ∀ n < t.rows.length, (index n).isOrdinal n = true) :
    (t.withIndex index).hasIndex = true := by
  refine hasIndex_iff.mpr ⟨rfl, fun n row hrow => ?_⟩
  unfold withIndex at hrow
  rw [List.getElem?_map] at hrow
  obtain ⟨⟨behind, k⟩, hk, rfl⟩ := Option.map_eq_some_iff.mp hrow
  obtain ⟨hlt, hpair⟩ := List.getElem?_eq_some_iff.mp hk
  rw [List.getElem_zipIdx, Nat.zero_add] at hpair
  obtain ⟨-, rfl⟩ := Prod.mk.inj hpair
  rw [List.length_zipIdx] at hlt
  exact ⟨_, rfl, index n, rfl, h n hlt⟩

theorem eraseColumn_withIndex (index : Nat → Scalar) (t : Table) :
    (t.withIndex index).eraseColumn 0 = t := by
  unfold eraseColumn withIndex
  rw [List.map_map]
  have hrows : t.rows.zipIdx.map ((fun row : Row => row.eraseIdx 0) ∘ fun (row, n) =>
      .plain (index n) :: row) = t.rows :=
    List.zipIdx_map_fst 0 t.rows
  rw [hrows]
  rfl

/-- **A column that counts the rows is recognized and dropped.** -/
theorem dropIndex_withIndex (h : ∀ n < t.rows.length, (index n).isOrdinal n = true) :
    (t.withIndex index).dropIndex = t := by
  unfold dropIndex
  rw [if_pos (hasIndex_withIndex h), eraseColumn_withIndex]

/-- Without a column of that name there is no index. -/
theorem dropIndex_of_not_mem (h : Header.unnamed 0 ∉ t.columns) : t.dropIndex = t := by
  have hhead : t.columns.head? ≠ some (Header.unnamed 0) := fun e => h (List.mem_of_head? e)
  unfold dropIndex hasIndex
  rw [beq_false_of_ne hhead, Bool.false_and, if_neg Bool.false_ne_true]

end Table

end TidyTable
