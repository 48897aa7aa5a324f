import TidyTable.Proofs.Tabulation
import TidyTable.Proofs.Ordinals

/-!
# What a dropped index can have said

A row is written behind its number, in plain digits. When a text is read, its first column counts as
such an index if each field reads as the number of its row, and reading is lenient: a plus sign may
stand in front, and any number of zeros. `Decimal.Spells` says exactly which characters read as a
number, and `ofCsv_drops_index_iff` says exactly when a column is dropped.

So the dropped fields are the numbers that would be written in their place, but not always as they
would be written. A column of codes `00`, `01` and so on under a blank header is dropped like an
index, and its zeros do not come back.
-/

namespace TidyTable

/-! ## Spellings of a number -/

namespace Decimal

variable {n : Nat} {cs : List Char}

/-- The spellings of a number: its digits, behind any number of zeros and at most one plus sign. -/
def Spells (n : Nat) (cs : List Char) : Prop :=
  ∃ sign zeros, (sign = [] ∨ sign = ['+']) ∧ cs = sign ++ (List.replicate zeros '0' ++ digits n)

/-- More than the digits that are needed: a plus sign, or a zero in front of other characters. -/
def Padded (cs : List Char) : Prop := cs.head? = some '+' ∨ (cs.head? = some '0' ∧ 1 < cs.length)

theorem digitValue_lt_ten {c : Char} (h : c.isDigit = true) : c.toNat - '0'.toNat < 10 := by
  obtain ⟨hlow, hhigh⟩ := Text.toNat_of_isDigit h
  have hzero : '0'.toNat = 48 := rfl
  omega

/-- A digit is the one digit of its own value. -/
theorem digits_digitValue {c : Char} (h : c.isDigit = true) :
    digits (c.toNat - '0'.toNat) = [c] := by
  obtain ⟨hlow, -⟩ := Text.toNat_of_isDigit h
  have hlt := digitValue_lt_ten h
  have hzero : '0'.toNat = 48 := rfl
  have hchar : Nat.digitChar (c.toNat - '0'.toNat) = c := by
    rw [← Char.toNat_inj, Nat.toNat_digitChar_of_lt_ten hlt]
    omega
  unfold digits
  rw [Nat.toDigits_of_lt_base hlt, hchar]

/-- Digits behind those of a number that is not zero make the digits of the number they are. -/
theorem digits_append {k : Nat} (hk : 0 < k) (h : ∀ c ∈ cs, c.isDigit = true) :
    digits k ++ cs = digits (Nat.ofDigitChars 10 cs k) := by
  induction cs generalizing k with
  | nil => simp
  | cons c cs ih =>
    have hc : c.isDigit = true := h c List.mem_cons_self
    have hcs : ∀ x ∈ cs, x.isDigit = true := fun x hx => h x (List.mem_cons_of_mem _ hx)
    calc digits k ++ c :: cs
        = (digits k ++ digits (c.toNat - '0'.toNat)) ++ cs := by
          rw [digits_digitValue hc, List.append_assoc, List.singleton_append]
      _ = digits (10 * k + (c.toNat - '0'.toNat)) ++ cs := by
          unfold digits
          rw [Nat.toDigits_append_toDigits (by decide) hk (digitValue_lt_ten hc)]
      _ = digits (Nat.ofDigitChars 10 (c :: cs) k) := by
          rw [ih (by omega) hcs, Nat.ofDigitChars_cons]

/-- Digits are zeros and then the digits of the number that they stand for. -/
theorem exists_zeros (hne : cs ≠ []) (h : ∀ c ∈ cs, c.isDigit = true) :
    ∃ zeros, cs = List.replicate zeros '0' ++ digits (value cs) := by
  induction cs with
  | nil => exact absurd rfl hne
  | cons c cs ih =>
    have hc : c.isDigit = true := h c List.mem_cons_self
    have hcs : ∀ x ∈ cs, x.isDigit = true := fun x hx => h x (List.mem_cons_of_mem _ hx)
    have hvalue : value (c :: cs) = Nat.ofDigitChars 10 cs (c.toNat - '0'.toNat) := by
      unfold value
      rw [Nat.ofDigitChars_cons, Nat.mul_zero, Nat.zero_add]
    by_cases hzero : c = '0'
    · subst hzero
      have hsame : value ('0' :: cs) = value cs := hvalue
      cases hcase : cs with
      | nil => exact ⟨0, rfl⟩
      | cons d ds =>
        obtain ⟨zeros, hzeros⟩ := ih (by rw [hcase]; exact List.cons_ne_nil d ds) hcs
        refine ⟨zeros + 1, ?_⟩
        rw [← hcase, hsame, List.replicate_succ, List.cons_append, ← hzeros]
    · -- the first digit is not zero, so no digit is too many
      have hpos : 0 < c.toNat - '0'.toNat := by
        obtain ⟨hlow, -⟩ := Text.toNat_of_isDigit hc
        have hne : c.toNat ≠ '0'.toNat := fun e => hzero (Char.toNat_inj.mp e)
        have hcode : '0'.toNat = 48 := rfl
        omega
      refine ⟨0, ?_⟩
      rw [hvalue, ← digits_append hpos hcs, digits_digitValue hc]
      rfl

theorem readDigits?_eq_some_iff :
    readDigits? cs = some n ↔ ∃ zeros, cs = List.replicate zeros '0' ++ digits n := by
  unfold readDigits?
  constructor
  · intro h
    obtain ⟨hdigits, hn⟩ := Option.ite_none_right_eq_some.mp h
    rw [Bool.and_eq_true, Bool.not_eq_true', List.isEmpty_eq_false_iff, List.all_eq_true]
      at hdigits
    obtain rfl := Option.some.inj hn
    exact exists_zeros hdigits.1 hdigits.2
  · rintro ⟨zeros, rfl⟩
    obtain ⟨c, rest, hcons, -, hall⟩ := digits_spec n
    have hne : (List.replicate zeros '0' ++ digits n).isEmpty = false := by
      rw [List.isEmpty_eq_false_iff]
      exact List.append_ne_nil_of_right_ne_nil _ (hcons ▸ List.cons_ne_nil c rest)
    have hdigits : (List.replicate zeros '0' ++ digits n).all Char.isDigit = true := by
      rw [List.all_eq_true]
      intro x hx
      rcases List.mem_append.mp hx with hx | hx
      · rw [List.eq_of_mem_replicate hx]
        rfl
      · exact hall x hx
    have hvalue : value (List.replicate zeros '0' ++ digits n) = n := by
      unfold value
      rw [Nat.ofDigitChars_append, Nat.ofDigitChars_replicate_zero, Nat.mul_zero]
      exact value_digits n
    rw [hne, hdigits, hvalue]
    rfl

/-- A number of zeros and digits begins with a digit. -/
theorem exists_digit_cons (zeros n : Nat) : ∃ c rest,
    List.replicate zeros '0' ++ digits n = c :: rest ∧ c.isDigit = true := by
  cases zeros with
  | zero =>
    obtain ⟨c, rest, hcons, hc, -⟩ := digits_spec n
    exact ⟨c, rest, hcons, hc⟩
  | succ zeros => exact ⟨'0', List.replicate zeros '0' ++ digits n, rfl, rfl⟩

/-- **The spellings of a number are all that reads as it.** -/
theorem readNatural?_eq_some_iff : readNatural? cs = some n ↔ Spells n cs := by
  unfold readNatural?
  split
  · rename_i rest
    rw [readDigits?_eq_some_iff]
    constructor
    · rintro ⟨zeros, rfl⟩
      exact ⟨['+'], zeros, Or.inr rfl, rfl⟩
    · rintro ⟨sign, zeros, rfl | rfl, h⟩
      · -- without a sign the plus would have to be a digit
        obtain ⟨c, behind, hcons, hc⟩ := exists_digit_cons zeros n
        rw [List.nil_append, hcons] at h
        exact absurd (List.cons.inj h).1.symm (Text.ne_of_isDigit hc (by decide))
      · exact ⟨zeros, (List.cons.inj h).2⟩
  · rename_i hplus
    rw [readDigits?_eq_some_iff]
    constructor
    · rintro ⟨zeros, rfl⟩
      exact ⟨[], zeros, Or.inl rfl, rfl⟩
    · rintro ⟨sign, zeros, rfl | rfl, h⟩
      · exact ⟨zeros, h⟩
      · exact absurd h (hplus _)

/-- No zero is written in front of another digit. -/
theorem not_padded_digits (n : Nat) : ¬ Padded (digits n) := by
  obtain ⟨c, rest, hcons, hc, hall⟩ := digits_spec n
  rintro (hplus | ⟨hzero, hlong⟩)
  · rw [hcons] at hplus
    exact Text.ne_of_isDigit hc (by decide) (Option.some.inj hplus)
  · -- without the zero the rest would stand for the same number, and could not be shorter
    rw [hcons] at hzero hlong
    obtain rfl : c = '0' := Option.some.inj hzero
    have hvalue : value rest = n := by
      have hn := value_digits n
      rwa [hcons] at hn
    have hne : rest ≠ [] := by
      rintro rfl
      exact absurd hlong (by decide)
    have hdigits : ∀ x ∈ rest, x.isDigit = true := fun x hx =>
      hall x (hcons ▸ List.mem_cons_of_mem _ hx)
    obtain ⟨zeros, hzeros⟩ := exists_zeros hne hdigits
    have hlen := congrArg List.length hzeros
    rw [hvalue, hcons, List.length_append, List.length_cons] at hlen
    omega

/-- A spelling is the one that is written, unless something is there that is not needed. -/
theorem Spells.eq_digits_iff (h : Spells n cs) : cs = digits n ↔ ¬ Padded cs := by
  constructor
  · rintro rfl
    exact not_padded_digits n
  · intro hnot
    obtain ⟨sign, zeros, rfl | rfl, rfl⟩ := h
    · cases zeros with
      | zero => rfl
      | succ zeros =>
        refine absurd (Or.inr ⟨rfl, ?_⟩) hnot
        obtain ⟨c, rest, hcons, -⟩ := digits_spec n
        simp only [List.nil_append, List.length_append, List.length_replicate, hcons,
          List.length_cons]
        omega
    · exact absurd (Or.inl rfl) hnot

theorem not_spells_nil (n : Nat) : ¬ Spells n [] := by
  intro h
  exact absurd (readNatural?_eq_some_iff.mpr h) nofun

end Decimal

/-! ## Cells that count -/

namespace Cell

/-- A cell counts as a number exactly if it was read from a spelling of it. -/
theorem counts_ofText_iff {nested : Bool} {n : Nat} {s : String} :
    (ofText nested s).Counts n ↔ Decimal.Spells n (Text.trim s.toList) := by
  rw [← Decimal.readNatural?_eq_some_iff]
  constructor
  · rintro ⟨value, hvalue, hcounts⟩
    unfold ofText at hvalue
    split at hvalue
    · -- an empty cell counts as nothing
      obtain rfl := Option.some.inj hvalue
      exact absurd hcounts Bool.false_ne_true
    · split at hvalue
      · exact absurd hvalue nofun
      · split at hvalue
        · exact absurd hvalue nofun
        · obtain rfl := Option.some.inj hvalue
          exact beq_iff_eq.mp hcounts
  · intro h
    rw [ofText_of_readNatural? nested h]
    exact ⟨.text s, rfl, beq_iff_eq.mpr h⟩

end Cell

/-! ## Tables with an index -/

namespace Table

variable {settings : Settings} {header : List String} {rows : List (List String)}

theorem head?_filled {width : Nat} (hwidth : 0 < width) (texts : List String) :
    (Csv.filled width texts).head? = some (texts.headD "") := by
  unfold Csv.filled
  cases texts with
  | nil =>
    obtain ⟨k, rfl⟩ := Nat.exists_eq_add_of_lt hwidth
    simp [List.replicate_succ]
  | cons text texts => rfl

/-- What records describe has an index exactly if their first fields spell the numbers of the
rows. A record without a first field has an empty one, and that spells nothing. -/
theorem hasIndex_described_iff : (Csv.described settings header rows).hasIndex = true ↔
    (Header.normalize header).head? = some (Header.unnamed 0) ∧
      ∀ (n : Nat) (texts : List String), rows[n]? = some texts →
        ∃ field rest, texts = field :: rest ∧ Decimal.Spells n (Text.trim field.toList) := by
  rw [hasIndex_iff]
  refine and_congr_right fun hhead => ?_
  obtain ⟨others, hnames⟩ :
      ∃ others, Header.normalize header = Header.unnamed 0 :: others :=
    List.head?_eq_some_iff.mp hhead
  have hwidth : 0 < header.length := by
    rw [← Header.length_normalize header, hnames]
    exact Nat.succ_pos _
  have hcells (texts : List String) :
      ((Header.normalize header).zipWith (fun name text =>
        Cell.ofText (name == settings.nestedColumn) text) (Csv.filled header.length texts)).head?
      = some (Cell.ofText (Header.unnamed 0 == settings.nestedColumn) (texts.headD "")) := by
    rw [List.head?_zipWith, hnames, head?_filled hwidth]
    rfl
  constructor
  · intro h n texts htexts
    have hrow : (Csv.described settings header rows).rows[n]? = some
        ((Header.normalize header).zipWith (fun name text =>
          Cell.ofText (name == settings.nestedColumn) text) (Csv.filled header.length texts)) := by
      unfold Csv.described ofTexts
      rw [List.getElem?_map, List.getElem?_map, htexts]
      rfl
    obtain ⟨cell, hcell, hcounts⟩ := h n _ hrow
    rw [hcells] at hcell
    obtain rfl := Option.some.inj hcell
    have hspells := Cell.counts_ofText_iff.mp hcounts
    cases texts with
    | nil => exact absurd hspells (Decimal.not_spells_nil n)
    | cons field rest => exact ⟨field, rest, rfl, hspells⟩
  · intro h n row hrow
    unfold Csv.described ofTexts at hrow
    rw [List.getElem?_map, List.getElem?_map] at hrow
    obtain ⟨filled, hfilled, rfl⟩ := Option.map_eq_some_iff.mp hrow
    obtain ⟨texts, htexts, rfl⟩ := Option.map_eq_some_iff.mp hfilled
    obtain ⟨field, rest, rfl, hspells⟩ := h n texts htexts
    exact ⟨_, hcells _, Cell.counts_ofText_iff.mpr hspells⟩

/-- One name less than there are headers is the mark of an index that was dropped. -/
theorem names_of_dropIndex_iff {t : Table} :
    t.columns = Header.unnamed 0 :: t.dropIndex.columns ↔ t.hasIndex = true := by
  unfold dropIndex
  constructor
  · intro hnames
    by_contra hindex
    rw [if_neg hindex] at hnames
    exact absurd (congrArg List.length hnames) (Nat.ne_of_lt (Nat.lt_succ_self _))
  · intro hindex
    rw [if_pos hindex]
    exact columns_of_hasIndex hindex

variable {content : String} {t : Table}

/-- **A first column is dropped exactly if it is called like an index and its fields spell the
numbers of their rows**, with blanks around them. Such a field is the number as it would be written,
unless a plus sign or a zero that is not needed is in front. -/
theorem ofCsv_drops_index_iff (hs : settings.fault? = none)
    (hdetect : settings.detectIndexColumn = true) (hread : ofCsv settings content = .ok t) :
    ∃ header rows,
      Csv.Reads settings.delimiterByte (Text.utf8 (Csv.dropMark content)) (header :: rows) ∧
      (Header.normalize header = Header.unnamed 0 :: t.columns ↔
        (Header.normalize header).head? = some (Header.unnamed 0) ∧
          ∀ (n : Nat) (texts : List String), rows[n]? = some texts →
            ∃ field rest, texts = field :: rest ∧
              Decimal.Spells n (Text.trim field.toList)) ∧
      (Header.normalize header = Header.unnamed 0 :: t.columns →
        ∀ (n : Nat) (field : String) (rest : List String), rows[n]? = some (field :: rest) →
          (Text.trimmed field = Decimal.naturalText n ↔
            ¬ Decimal.Padded (Text.trim field.toList))) := by
  obtain ⟨header, rows, hreads⟩ := exists_header_of_ofCsv hs hread
  obtain ⟨-, ht⟩ := (ofCsv_eq_ok_iff hreads).mp hread
  rw [if_pos hdetect] at ht
  have hdropped : Header.normalize header = Header.unnamed 0 :: t.columns ↔
      (Csv.described settings header rows).hasIndex = true := by
    rw [ht]
    exact names_of_dropIndex_iff (t := Csv.described settings header rows)
  rw [hasIndex_described_iff] at hdropped
  refine ⟨header, rows, hreads, hdropped, fun hnames n field rest hrow => ?_⟩
  obtain ⟨field', rest', hfields, hspells⟩ := (hdropped.mp hnames).2 n _ hrow
  obtain ⟨rfl, rfl⟩ := List.cons.inj hfields
  rw [← hspells.eq_digits_iff]
  unfold Text.trimmed Decimal.naturalText
  exact ⟨fun h => String.ofList_injective h, fun h => congrArg String.ofList h⟩

/-- Blanks around a number, a plus sign, and zeros. -/
theorem ofCsv_drops_index_iff_each_spelling :
    let content := ",A\n 0\t,x\n+1,y\n002,z\n"
    let t : Table := { columns := ["A"], rows := [[.text "x"], [.text "y"], [.text "z"]] }
    ({} : Settings).fault? = none ∧ ({} : Settings).detectIndexColumn = true ∧
      ofCsv {} content = .ok t ∧
      ∃ header rows,
        Csv.Reads ({} : Settings).delimiterByte (Text.utf8 (Csv.dropMark content))
          (header :: rows) ∧
        (Header.normalize header = Header.unnamed 0 :: t.columns ↔
          (Header.normalize header).head? = some (Header.unnamed 0) ∧
            ∀ (n : Nat) (texts : List String), rows[n]? = some texts →
              ∃ field rest, texts = field :: rest ∧
                Decimal.Spells n (Text.trim field.toList)) ∧
        (Header.normalize header = Header.unnamed 0 :: t.columns →
          ∀ (n : Nat) (field : String) (rest : List String), rows[n]? = some (field :: rest) →
            (Text.trimmed field = Decimal.naturalText n ↔
              ¬ Decimal.Padded (Text.trim field.toList))) := by
  intro content t
  have hvalid : ({} : Settings).fault? = none := by decide
  have hread : ofCsv {} content = .ok t := by decide +kernel
  exact ⟨hvalid, rfl, hread, ofCsv_drops_index_iff hvalid rfl hread⟩

/-- **Zeros in front are lost.** Two codes that read as the numbers of their rows are dropped like
an index, and the index that is written in their place has other texts. -/
theorem ofCsv_drops_index_iff_leading_zeros :
    let content := ",A\n00,x\n01,y\n"
    let t : Table := { columns := ["A"], rows := [[.text "x"], [.text "y"]] }
    ({} : Settings).fault? = none ∧ ({} : Settings).detectIndexColumn = true ∧
      Csv.Reads ({} : Settings).delimiterByte (Text.utf8 (Csv.dropMark content))
        [["", "A"], ["00", "x"], ["01", "y"]] ∧
      ofCsv {} content = .ok t ∧ t.toCsv {} = .ok ",A\n0,x\n1,y\n" ∧
      Text.trimmed "00" ≠ Decimal.naturalText 0 ∧ Text.trimmed "01" ≠ Decimal.naturalText 1 := by
  intro content t
  have hreads : Csv.Reads ({} : Settings).delimiterByte (Text.utf8 (Csv.dropMark content))
      [["", "A"], ["00", "x"], ["01", "y"]] := by
    unfold Csv.Reads
    decide +kernel
  have hread : ofCsv {} content = .ok t := by decide +kernel
  have hwrite : t.toCsv {} = .ok ",A\n0,x\n1,y\n" := by decide +kernel
  exact ⟨by decide, rfl, hreads, hread, hwrite, by decide, by decide⟩

end Table

end TidyTable
